import AccountPortal.Page.Dashboard
import AccountPortal.Page.Login
import AccountPortal.Proofs.Markup.Template

/-!
Strings on the pages. Each part of a page is a template, and the strings that it is given
go into holes of the template, encoded as texts or as values. So no title, message, label
or name can add an element to a page or take one away, and each is read back as it was.
-/
namespace AccountPortal.Page

open Form Markup

/-- Views whose text is one template with strings in its holes, one in each. Whatever else
may be in the holes, a reader takes the markup of the template for markup and nothing
else. -/
def Templated {α : Type} (view : α → List Node) (strings : α → List String) : Prop :=
  ∃ template : List Slot,
    (∀ a, Filled template (strings a) (renderAll (view a))) ∧
    ∀ filling out, Filled template filling out → outline .text out = fixed template

/-- Views with the same slots are one template, if the names in one of them are names. -/
theorem templated_of_slots {α : Type} {view : α → List Node} {strings : α → List String}
    (sample : α) (hnames : ∀ n ∈ names (view sample), isName n = true)
    (hslots : ∀ a, slots (view a) = slots (view sample))
    (hfillings : ∀ a, fillings (view a) = strings a) : Templated view strings := by
  refine ⟨slots (view sample), ?_, fun _ _ => outline_slots hnames⟩
  intro a
  rw [← hslots a, ← hfillings a]
  exact filled_renderAll (view a)

/-- The strings in a card that holds a text. -/
def cardStrings : String × String × String → List String
  | (title, subtitle, child) =>
    ["auth-page", "auth-card", "auth-card__header", "auth-card__logo", "true", "🎵", title,
      "auth-card__subtitle", subtitle, child]

/-- The strings around a verb on the buttons of providers, and in what is said of one. -/
def providerStrings (tried : Option Provider) (verb : String) : List String :=
  ["auth-divider", "OR", "oauth-buttons",
    "button", "Not available yet", "oauth-button", verb ++ " with " ++ "Google",
    "button", "Not available yet", "oauth-button", verb ++ " with " ++ "Spotify"] ++
  tried.toList.flatMap fun p => ["oauth-buttons__notice", p.notice]

/-- The strings in an input with its label. The value is not among them. -/
def inputStrings (input : Input) : List String :=
  ["form-field", input.id, "form-field__label", input.label, input.id, input.id, input.kind,
    input.placeholder, "form-field__input"]

theorem fillings_input (input : Input) (rest : List Node) :
    fillings (input.view :: rest) = inputStrings input ++ fillings rest := by
  cases h : input.disabled <;> simp [Input.view, classed, flagIf, inputStrings, h]

theorem templated_card :
    Templated (fun (title, subtitle, child) => [card title subtitle [.text child]])
      cardStrings := by
  refine templated_of_slots ("", "", "") (by decide +kernel) ?_ ?_
  · simp [card, classed, plain]
  · simp [card, classed, plain, cardStrings]

theorem templated_errorAlert :
    Templated (fun message => [errorAlert (some message)])
      fun message => ["alert", "alert alert--error", message] := by
  refine templated_of_slots "" (by decide +kernel) ?_ ?_
  · simp [errorAlert, shown]
  · simp [errorAlert, shown]

theorem templated_noticeAlert :
    Templated (fun message => [noticeAlert (some message)])
      fun message => ["status", "alert alert--notice", message] := by
  refine templated_of_slots "" (by decide +kernel) ?_ ?_
  · simp [noticeAlert, shown]
  · simp [noticeAlert, shown]

theorem templated_providerButtons (tried : Option Provider) :
    Templated (fun verb => providerButtons verb tried) (providerStrings tried) := by
  refine templated_of_slots "" ?_ ?_ ?_
  · rcases tried with _ | ⟨_ | _⟩ <;> decide +kernel
  · simp [providerButtons, Provider.all, classed, plain]
  · cases tried <;>
      simp [providerButtons, providerStrings, Provider.all, Provider.label, shown, classed, plain]

/-- The verb on the button of a provider is encoded by itself. -/
theorem encodeText_verb (verb : String) (p : Provider) :
    encodeText (verb ++ " with " ++ p.label).toList =
      verb.toList.flatMap encodeTextChar ++ (" with " ++ p.label).toList := by
  have hplain : (" with " ++ p.label).toList.flatMap encodeTextChar =
      (" with " ++ p.label).toList := by
    cases p <;> decide +kernel
  have hne : (" with " ++ p.label).toList ≠ [] := by
    cases p <;> decide +kernel
  rw [String.append_assoc, String.toList_append, encodeText_append _ hne hplain]

theorem templated_input (disabled : Bool) :
    Templated (fun input : Input => [{ input with disabled := disabled }.view])
      inputStrings := by
  refine templated_of_slots ⟨"", "", "", "", disabled, ""⟩ ?_ ?_ ?_
  · cases disabled <;> decide +kernel
  · simp [Input.view, classed]
  · simp [fillings_input, inputStrings]

/-- The label is for the input, whatever their common name is made of. -/
theorem input_html (input : Input) :
    renderAll [input.view] =
      "<div class=\"form-field\"><label for=\"".toList ++ encodeAttribute input.id.toList ++
      "\" class=\"form-field__label\">".toList ++ encodeText input.label.toList ++
      "</label><input id=\"".toList ++ encodeAttribute input.id.toList ++
      "\" name=\"".toList ++ encodeAttribute input.id.toList ++
      "\" type=\"".toList ++ encodeAttribute input.kind.toList ++
      "\" placeholder=\"".toList ++ encodeAttribute input.placeholder.toList ++
      (if input.disabled then "\" disabled class=\"form-field__input\"></div>"
        else "\" class=\"form-field__input\"></div>").toList := by
  have hview : renderAll [input.view] =
      openTag "div" [.pair "class" "form-field"] ++
      ((openTag "label" [.pair "for" input.id, .pair "class" "form-field__label"] ++
        (encodeText input.label.toList ++ []) ++ closeTag "label") ++
      (openTag "input" ([.pair "id" input.id, .pair "name" input.id, .pair "type" input.kind,
        .pair "placeholder" input.placeholder] ++
      flagIf input.disabled "disabled" ++ [.pair "class" "form-field__input"]) ++ [])) ++
      closeTag "div" ++ [] := rfl
  rw [hview]
  cases input.disabled <;>
    simp [openTag, closeTag, Attribute.render, flagIf, encodeAttribute, encodeAttributeChar,
      encodeTextChar]

theorem card_child_inj {title subtitle child other : String}
    (h : renderAll [card title subtitle [.text child]] =
      renderAll [card title subtitle [.text other]]) :
    child = other ∨ (child = "" ∧ other = " ") ∨ (child = " " ∧ other = "") := by
  have hchild : encodeText child.toList = encodeText other.toList := by
    simpa [card, classed, renderAll, Node.render_element, Node.render_text] using h
  rcases encodeText_inj hchild with heq | ⟨hempty, hspace⟩ | ⟨hspace, hempty⟩
  · exact Or.inl (String.toList_injective heq)
  · exact Or.inr (Or.inl ⟨String.toList_injective hempty, String.toList_injective hspace⟩)
  · exact Or.inr (Or.inr ⟨String.toList_injective hspace, String.toList_injective hempty⟩)

/-- The strings on the login page with a message. -/
def loginStrings (path : List Char) (message : String) : List String :=
  ["auth-page", "auth-card", "auth-card__header", "auth-card__logo", "true", "🎵",
    "Welcome Back", "auth-card__subtitle", "Log in to Spotify Voice Manager",
    "status", "alert alert--notice", message, "auth-form"] ++
  inputStrings ⟨"email", "Email", "email", "you@example.com", false, ""⟩ ++
  inputStrings ⟨"password", "Password", "password", "Your password", false, ""⟩ ++
  ["submit", "auth-button", "Log In"] ++ providerStrings none "Continue" ++
  ["auth-card__footer", "Don't have an account? ", "/signup"] ++
  (if Location.isCurrent "/signup" path then ["page"] else []) ++ ["Sign up"]

theorem fillings_login (path : List Char) (message : String) :
    fillings (Login.view path (Login.mount ⟨some message⟩)) = loginStrings path message := by
  have hpath : Route.signup.path = "/signup" := rfl
  cases h : Location.isCurrent "/signup" path <;>
    simp [Login.view, Login.mount, Flash.take, Status.initial, Status.isBusy, Status.error?, card,
      noticeAlert, errorAlert, submitButton, providerButtons, Provider.all, Provider.label, footer,
      link, shown, classed, plain, flagIf, fillings_input, LoginForm.empty, loginStrings,
      providerStrings, hpath, h]

theorem templated_login (path : List Char) :
    Templated (fun message => Login.view path (Login.mount ⟨some message⟩))
      (loginStrings path) := by
  refine templated_of_slots "" ?_ (fun _ => rfl) (fillings_login path)
  cases h : Location.isCurrent Route.signup.path path with
  | false =>
    simp only [Login.view, footer, link, h]
    decide +kernel
  | true =>
    simp only [Login.view, footer, link, h]
    decide +kernel

namespace Dashboard

/-- The page while an account is shown. -/
def signedIn (busy : Bool) : State × CurrentUser → State
  | (s, current) =>
    { guard := { s.guard with state := { s.guard.state with user := some current } }
      loggingOut := busy
      flash := s.flash }

/-- The strings in the holes of the page for an account. -/
def strings (current : CurrentUser) : List String :=
  ["dashboard-page", "dashboard-page__header", "dashboard-page__brand",
    "🎵 Spotify Voice Manager", "dashboard-page__spacer", "dashboard-page__greeting",
    "Welcome, ", current.user.username, "!", "btn dashboard-page__logout", "Logout",
    "dashboard-page__body", "Dashboard", "dashboard-page__cards", "card",
    "👤 User Information", "card__fields", "Username", current.user.username,
    "Email", current.user.email,
    "Spotify account", if current.profile.any Profile.linked then "Linked" else "Not linked",
    "Voice commands", if current.profile.any Profile.voiceCommands then "Enabled" else "Disabled",
    "card", "⚡ Quick Actions", "card__hint", "Playlist management is coming soon.",
    "card__actions", "button", "btn", "View Playlists", "button", "btn", "Create Playlist"]

theorem slots_accountView (current other : CurrentUser) (busy : Bool) :
    slots [accountView current busy] = slots [accountView other busy] := by
  simp [accountView, classed, plain, fact, inertButton]

theorem fillings_accountView (current : CurrentUser) (busy : Bool) :
    fillings [accountView current busy] = strings current := by
  cases busy <;>
    simp [accountView, strings, classed, plain, fact, inertButton, flagIf]

theorem templated_signedIn (busy : Bool) :
    Templated (fun shown => view (signedIn busy shown)) fun shown => strings shown.2 := by
  let someone : CurrentUser := ⟨⟨0, "", "", none, none⟩, none⟩
  refine templated_of_slots (initial .empty, someone) ?_ ?_ ?_
  · cases busy <;> decide +kernel
  · exact fun shown => slots_accountView shown.2 someone busy
  · exact fun shown => fillings_accountView shown.2 busy

end Dashboard

/-- No string can be more than a string on a page. What is put into a hole holds nothing
that would end it, and is read back as the string; the part around the holes is one
template, for any strings. So different texts never look alike, except that an empty one
looks like a space, and a label stays with its input, whatever has been typed into that. -/
theorem strings_stay_in_holes :
    ((∀ s : List Char, Encodes Entity.inText (if s = [] then [' '] else s) (encodeText s)) ∧
      (∀ s : List Char, Encodes Entity.inValue s (encodeAttribute s)) ∧
      (∀ (verb : String) (p : Provider),
        encodeText (verb ++ " with " ++ p.label).toList =
          verb.toList.flatMap encodeTextChar ++ (" with " ++ p.label).toList ∧
        Encodes Entity.inText verb.toList (verb.toList.flatMap encodeTextChar))) ∧
    (Templated (fun (title, subtitle, child) => [card title subtitle [.text child]])
        cardStrings ∧
      Templated (fun message => [errorAlert (some message)])
        (fun message => ["alert", "alert alert--error", message]) ∧
      Templated (fun message => [noticeAlert (some message)])
        (fun message => ["status", "alert alert--notice", message]) ∧
      (∀ tried, Templated (fun verb => providerButtons verb tried) (providerStrings tried)) ∧
      (∀ disabled, Templated (fun input : Input => [{ input with disabled := disabled }.view])
        inputStrings) ∧
      (∀ path, Templated (fun message => Login.view path (Login.mount ⟨some message⟩))
        (loginStrings path)) ∧
      (∀ busy, Templated (fun shown => Dashboard.view (Dashboard.signedIn busy shown))
        fun shown => Dashboard.strings shown.2)) ∧
    (∀ title subtitle child other,
      renderAll [card title subtitle [.text child]] =
        renderAll [card title subtitle [.text other]] →
      child = other ∨ (child = "" ∧ other = " ") ∨ (child = " " ∧ other = "")) ∧
    (∀ input : Input,
      let id := encodeAttribute input.id.toList
      decode id = input.id.toList ∧
      renderAll [input.view] =
        "<div class=\"form-field\"><label for=\"".toList ++ id ++
        "\" class=\"form-field__label\">".toList ++ encodeText input.label.toList ++
        "</label><input id=\"".toList ++ id ++ "\" name=\"".toList ++ id ++
        "\" type=\"".toList ++ encodeAttribute input.kind.toList ++
        "\" placeholder=\"".toList ++ encodeAttribute input.placeholder.toList ++
        (if input.disabled then "\" disabled class=\"form-field__input\"></div>"
          else "\" class=\"form-field__input\"></div>").toList ∧
      ∀ value, renderAll [{ input with value := value }.view] = renderAll [input.view]) := by
  refine ⟨⟨encodes_text, encodes_attribute, ?_⟩, ⟨templated_card, templated_errorAlert,
    templated_noticeAlert, templated_providerButtons, templated_input, templated_login,
    Dashboard.templated_signedIn⟩, ?_, ?_⟩
  · intro verb p
    refine ⟨encodeText_verb verb p, ?_⟩
    rw [funext encodeTextChar_eq]
    exact encodes_escape (by simp [Entity.inText]) verb.toList
  · exact fun _ _ _ _ h => card_child_inj h
  · intro input id
    exact ⟨(encodes_attribute input.id.toList).decoded, input_html input, fun _ => rfl⟩

example : html [errorAlert (some "<b>\"R&B\"</b>")] =
    "<div role=\"alert\" class=\"alert alert--error\">&lt;b&gt;\"R&amp;B\"&lt;/b&gt;</div>" := by
  decide +kernel

end AccountPortal.Page
