import AccountPortal.Proofs.Backend.TokenCookie

/-!
Sessions that differ in the value of the token alone. A script leaves open which value
the token has in its cookie strings. Whichever is put there, the same segments of those
strings give a value to the token, so a token is known at the same moments and nothing
but the header of the requests tells what it is.
-/
namespace AccountPortal.Backend.HiddenToken

open Cookie Dialogue Http Text

/-- A value that a cookie string can give to the token as it stands. -/
structure Token where
  text : String
  present : text ≠ ""
  unbroken : ';' ∉ text.toList
  trimmed : trim text = text

structure Blanks where
  text : List Char
  blank : text.all isBlank = true

/-- A stretch of a cookie string: one that does not depend on the token, or the segment
that gives it its value. -/
inductive Stretch where
  | fixed (text : List Char)
  | token (before between after : Blanks)

namespace Stretch

def text (t : Token) : Stretch → List Char
  | .fixed s => s
  | .token before between after =>
    before.text ++ "csrftoken=".toList ++ between.text ++ t.text.toList ++ after.text

def values (t : Token) : Stretch → List String
  | .fixed s => (pieces ';' s).filterMap tokenValue?
  | .token _ _ _ => [t.text]

end Stretch

def line (t : Token) : List Stretch → List Char
  | [] => []
  | [s] => s.text t
  | s :: next :: rest => s.text t ++ ';' :: line t (next :: rest)

/-- A cookie store in which the token is left open. -/
abbrev Store := Option (List Stretch)

def Store.jar (t : Token) (store : Store) : Jar :=
  store.map fun stretches => String.ofList (line t stretches)

theorem Token.trimChars_text (t : Token) : trimChars t.text.toList = t.text.toList :=
  trimChars_eq_self t.trimmed

theorem Token.toList_ne_nil (t : Token) : t.text.toList ≠ [] :=
  fun h => t.present (String.toList_eq_nil_iff.mp h)

theorem Blanks.not_mem (b : Blanks) : ';' ∉ b.text := not_mem_of_blank b.blank

/-- The segment of the token gives it its value whatever blanks are in it. -/
theorem tokenValue?_token (t : Token) (before between after : Blanks) :
    tokenValue? ((Stretch.token before between after).text t) = some t.text := by
  have hne : between.text ++ t.text.toList ≠ [] := by simp [t.toList_ne_nil]
  have htrim : trimChars ((Stretch.token before between after).text t) =
      "csrftoken=".toList ++ (between.text ++ t.text.toList) := by
    rw [Stretch.text, trimChars_append_right _ after.blank, List.append_assoc, List.append_assoc,
      trimChars_append_left before.blank, ← List.append_assoc]
    exact trimChars_cons_append (by decide) ("srftoken=".toList ++ between.text) t.toList_ne_nil
      t.trimChars_text
  rw [tokenValue?, htrim, if_pos (List.prefix_append _ _)]
  change some (String.ofList (trimChars (between.text ++ t.text.toList))) = some t.text
  rw [trimChars_append_left between.blank, t.trimChars_text, String.ofList_toList]

theorem values_stretch (t : Token) (s : Stretch) :
    (pieces ';' (s.text t)).filterMap tokenValue? = s.values t := by
  cases s with
  | fixed s => rfl
  | token before between after =>
    have hmem : ';' ∉ (Stretch.token before between after).text t := by
      simp [Stretch.text, before.not_mem, between.not_mem, after.not_mem, t.unbroken]
    rw [pieces_of_not_mem hmem, List.filterMap_cons_some (tokenValue?_token t before between after)]
    rfl

theorem tokenValues_line (t : Token) (stretches : List Stretch) :
    tokenValues (String.ofList (line t stretches)) = stretches.flatMap (Stretch.values t) := by
  rw [tokenValues, String.toList_ofList, ← pieces_eq_splitOn]
  induction stretches with
  | nil => rfl
  | cons s rest ih =>
    cases rest with
    | nil => simp [line, values_stretch]
    | cons next rest => simp [line, pieces_append, values_stretch, ih]

/-- The first value is the same, or else it is the token in both. -/
theorem head?_values (t u : Token) (stretches : List Stretch) :
    (stretches.flatMap (Stretch.values t)).head? = (stretches.flatMap (Stretch.values u)).head? ∨
    (stretches.flatMap (Stretch.values t)).head? = some t.text ∧
      (stretches.flatMap (Stretch.values u)).head? = some u.text := by
  induction stretches with
  | nil => exact Or.inl rfl
  | cons s rest ih =>
    cases s with
    | fixed s =>
      simp only [List.flatMap_cons, Stretch.values]
      cases (pieces ';' s).filterMap tokenValue? with
      | nil => exact ih
      | cons value values => exact Or.inl rfl
    | token before between after => exact Or.inr ⟨rfl, rfl⟩

/-- A token is known or not, whichever it is. -/
theorem isSome_token? (t u : Token) (store : Store) :
    (store.jar t).token?.isSome = (store.jar u).token?.isSome := by
  cases store with
  | none => rfl
  | some stretches =>
    simp only [Store.jar, Option.map_some, Jar.token?, Jar.get?, find?_token, tokenValues_line]
    rcases head?_values t u stretches with h | ⟨ht, hu⟩
    · rw [h]
    · simp [ht, hu, t.present, u.present]

/-- The request with the value of the token header struck out. -/
def struck (r : Request) : Request :=
  { r with headers := r.headers.map fun h => if h.1 = "X-CSRFToken" then (h.1, "") else h }

def struckAnswer : Answer → Answer
  | .request r => .request (struck r)
  | answer => answer

structure Upshot where
  answer : Answer
  log : List LogLine
  sent : List Request

def upshot (d : Deed) : Upshot :=
  ⟨struckAnswer d.step.answer, d.step.log, d.step.sent.map struck⟩

section Perform

variable {jar other : Jar} (hjar : jar.token?.isSome = other.token?.isSome)

include hjar

theorem struck_buildRequest (base : Base) (method : Method) (path : String) (body : Option String) :
    struck (buildRequest base jar method path body) =
      struck (buildRequest base other method path body) := by
  simp only [struck, buildRequest, headersFor]
  cases hj : jar.token? with
  | none =>
    cases ho : other.token? with
    | none => rfl
    | some u => simp [hj, ho] at hjar
  | some t =>
    cases ho : other.token? with
    | none => simp [hj, ho] at hjar
    | some u => simp [csrfHeader]

/-- Only the answer to the bootstrap depends on the store, and only on whether there is
a token in it. -/
theorem conclude_congr {op : Operation} {x : Exchange Answer} (h : op.plan = .exchange x)
    (outcome : Outcome) : x.conclude outcome jar = x.conclude outcome other := by
  cases op with
  | buildRequest method path body => cases h
  | upload kind path body expected =>
    cases body with
    | none => cases h
    | some v => cases h; rfl
  | bootstrap =>
    cases h
    simp only [Exchange.map, Exchange.andThen, bootstrap, hjar]
  | signup form =>
    simp only [Operation.plan] at h
    split at h
    · cases h; rfl
    · cases h
  | _ => cases h; rfl

theorem immediate_congr {op : Operation} {answer : Base → Jar → Answer}
    (h : op.plan = .immediate answer) (base : Base) :
    struckAnswer (answer base jar) = struckAnswer (answer base other) := by
  cases op with
  | buildRequest method path body =>
    cases h
    exact congrArg Answer.request (struck_buildRequest hjar base method path body)
  | upload kind path body expected =>
    cases body with
    | none => cases h; rfl
    | some v => cases h
  | signup form =>
    simp only [Operation.plan] at h
    split at h
    · cases h
    · cases h; rfl
  | _ => cases h

end Perform

inductive Cue where
  | operation (op : Operation) (outcome : Outcome) (cookies : Store)
  | setCookies (store : Store)

def Cue.move (t : Token) : Cue → Move
  | .operation op outcome cookies => .operation op ⟨outcome, cookies.jar t⟩
  | .setCookies store => .setCookies (store.jar t)

theorem Store.jar_or (t : Token) (cookies store : Store) :
    (cookies.jar t).or (store.jar t) = Store.jar t (cookies.or store) := by
  cases cookies <;> rfl

/-- An operation comes to the same with either token, and both leave the same store. -/
theorem perform_congr (t u : Token) (base : Base) (store : Store) (op : Operation)
    (outcome : Outcome) (cookies : Store) :
    let first := perform base (store.jar t) op ⟨outcome, cookies.jar t⟩
    let second := perform base (store.jar u) op ⟨outcome, cookies.jar u⟩
    upshot first = upshot second ∧
      ∃ after : Store, first.after = after.jar t ∧ second.after = after.jar u := by
  have hbefore := isSome_token? t u store
  rcases plan_cases op with ⟨x, hplan, _⟩ | ⟨answer, hplan, _⟩
  · have hafter := isSome_token? t u (cookies.or store)
    have hend := conclude_congr hafter hplan outcome
    have hsent := struck_buildRequest hbefore base x.method x.path x.body
    simp only [perform_exchange base _ op _ hplan, Store.jar_or]
    refine ⟨?_, cookies.or store, rfl, rfl⟩
    simp only [upshot, hend, Exchange.request, List.map_cons, List.map_nil, hsent]
  · simp only [perform_immediate base _ op _ hplan]
    refine ⟨?_, store, rfl, rfl⟩
    simp only [upshot, immediate_congr hbefore hplan base, List.map_nil]

/-- A whole session comes to the same with either token. -/
theorem play_congr (t u : Token) (base : Base) (store : Store) (script : List Cue) :
    (play base (store.jar t) (script.map (Cue.move t))).1.map upshot =
      (play base (store.jar u) (script.map (Cue.move u))).1.map upshot := by
  induction script generalizing store with
  | nil => rfl
  | cons cue rest ih =>
    cases cue with
    | operation op outcome cookies =>
      obtain ⟨hsame, after, ht, hu⟩ := perform_congr t u base store op outcome cookies
      simp only [List.map_cons, Cue.move, play, hsame, ht, hu, ih after]
    | setCookies other => exact ih other

end AccountPortal.Backend.HiddenToken
