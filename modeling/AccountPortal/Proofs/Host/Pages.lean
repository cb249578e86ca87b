import AccountPortal.Host.Site
import AccountPortal.Page.Location
import AccountPortal.Proofs.Text.Pieces

/-!
Which pages there are, for the server and for the application itself. The server knows
them by their paths, letter by letter. The router of the application takes the same
paths, and besides the empty one, and the path of a page with one more slash behind it;
there the server finds nothing. At every other path outside of the probe and the bundle
the two agree. What the router sees of an address that is a plain path is that path.
-/
namespace AccountPortal.Page.Location

open Text

/-- A segment of a path as it stands in an address: it is no dot segment, and none of its
characters has a meaning in an address or is dropped from it. -/
structure IsSegment (s : List Char) : Prop where
  solid : ∀ c ∈ s, ¬ isEdge c ∧ c ∉ ['/', '?', '#', '\\']
  noDot : isDot s = false ∧ isDoubleDot s = false

/-- A slash and a segment, once or again and again, with no two slashes at the beginning. -/
def IsPlain (path : List Char) : Prop :=
  ∃ first rest, path = joinSegments (first :: rest) ∧ (first = [] → rest = []) ∧
    ∀ s ∈ first :: rest, IsSegment s

theorem isEdge_of_isBreak {c : Char} (h : isBreak c = true) : isEdge c = true := by
  simp only [isBreak, Bool.or_eq_true, decide_eq_true_eq] at h
  rcases h with (rfl | rfl) | rfl <;> rfl

theorem clean_of_no_edge {s : List Char} (h : ∀ c ∈ s, ¬ isEdge c) : clean s = s := by
  have hdrop {t : List Char} (ht : ∀ c ∈ t, ¬ isEdge c) : t.dropWhile isEdge = t := by
    cases t with
    | nil => rfl
    | cons c rest => rw [List.dropWhile_cons, if_neg (ht c List.mem_cons_self)]
  rw [clean, hdrop h, hdrop fun c hc => h c (List.mem_reverse.mp hc), List.reverse_reverse,
    List.filter_eq_self]
  intro c hc
  have hbreak : isBreak c ≠ true := fun hc' => h c hc (isEdge_of_isBreak hc')
  simpa using hbreak

theorem beforeQuery_of_no_mark {s : List Char} (h : ∀ c ∈ s, c ≠ '?' ∧ c ≠ '#') :
    beforeQuery s = s := by
  rw [beforeQuery, List.takeWhile_eq_self_iff]
  simpa using h

theorem slashed_of_not_mem {s : List Char} (h : '\\' ∉ s) : slashed s = s := by
  have hkept : ∀ c ∈ s, (if c = '\\' then '/' else c) = id c := by
    intro c hc
    refine if_neg ?_
    rintro rfl
    exact h hc
  rw [slashed, List.map_congr_left hkept, List.map_id]

theorem scheme?_slash (s : List Char) : scheme? ('/' :: s) = none := by
  unfold scheme?
  cases hcut : cut? ':' s with
  | none => simp [cut?, hcut]
  | some parts => simp [cut?, hcut, isLetter]

theorem resolve_of_no_dot (done rest : List (List Char))
    (h : ∀ s ∈ rest, isDot s = false ∧ isDoubleDot s = false) :
    resolve done rest = done.reverse ++ rest := by
  induction rest generalizing done with
  | nil => rw [resolve, List.append_nil]
  | cons s rest ih =>
    obtain ⟨hdot, hdouble⟩ := h s List.mem_cons_self
    rw [resolve, hdouble, hdot, if_neg Bool.false_ne_true, if_neg Bool.false_ne_true,
      ih _ fun t ht => h t (List.mem_cons_of_mem _ ht)]
    simp

theorem pieces_joinSegments {first : List Char} {rest : List (List Char)}
    (h : ∀ s ∈ first :: rest, '/' ∉ s) :
    pieces '/' (first ++ joinSegments rest) = first :: rest := by
  induction rest generalizing first with
  | nil =>
    rw [joinSegments, List.flatMap_nil, List.append_nil]
    exact pieces_of_not_mem (h first List.mem_cons_self)
  | cons s rest ih =>
    have hrest := ih fun t ht => h t (List.mem_cons_of_mem _ ht)
    rw [joinSegments, List.flatMap_cons, List.cons_append, pieces_append,
      pieces_of_not_mem (h first List.mem_cons_self)]
    exact congrArg (first :: ·) hrest

/-- A path from the root without dot segments stays as it is. -/
theorem rooted_joinSegments {first : List Char} {rest : List (List Char)}
    (h : ∀ s ∈ first :: rest, IsSegment s) :
    rooted (joinSegments (first :: rest)) = joinSegments (first :: rest) := by
  have hpieces : pieces '/' (first ++ joinSegments rest) = first :: rest :=
    pieces_joinSegments fun s hs hslash => ((h s hs).solid '/' hslash).2 (by simp)
  have hresolve : resolve [] (first :: rest) = first :: rest :=
    resolve_of_no_dot [] _ fun s hs => (h s hs).noDot
  have htail : (joinSegments (first :: rest)).tail = first ++ joinSegments rest := rfl
  have hhead : (joinSegments (first :: rest)).head? = some '/' := rfl
  rw [rooted, if_pos hhead, htail, hpieces, hresolve]

/-- A second slash would announce a host. -/
theorem relative_joinSegments {first : List Char} {rest : List (List Char)}
    (hfirst : first = [] → rest = []) (hslash : '/' ∉ first) :
    relative (joinSegments (first :: rest)) = rooted (joinSegments (first :: rest)) := by
  unfold relative
  split
  · rename_i tail heq
    cases first with
    | nil =>
      rw [hfirst rfl] at heq
      simp [joinSegments] at heq
    | cons c first =>
      rw [joinSegments, List.flatMap_cons, List.cons_append, List.cons_append, List.cons.injEq,
        List.cons.injEq] at heq
      exact absurd (heq.2.1 ▸ List.mem_cons_self) hslash
  · rfl

/-- The router sees a plain path as it is. -/
theorem path_of_isPlain {path : List Char} (h : IsPlain path) :
    Location.path (String.ofList path) = path := by
  obtain ⟨first, rest, rfl, hfirst, hsegments⟩ := h
  have hplain : ∀ c ∈ joinSegments (first :: rest), ¬ isEdge c ∧ c ∉ ['?', '#', '\\'] := by
    intro c hc
    obtain ⟨s, hs, hc⟩ := List.mem_flatMap.mp hc
    rcases List.mem_cons.mp hc with rfl | hc
    · decide
    · obtain ⟨hedge, hmark⟩ := (hsegments s hs).solid c hc
      exact ⟨hedge, fun h => hmark (List.mem_cons_of_mem _ h)⟩
  have hclean := clean_of_no_edge fun c hc => (hplain c hc).1
  have hquery : beforeQuery (joinSegments (first :: rest)) = joinSegments (first :: rest) := by
    apply beforeQuery_of_no_mark
    intro c hc
    have hmark := (hplain c hc).2
    simp only [List.mem_cons, not_or] at hmark
    exact ⟨hmark.1, hmark.2.1⟩
  have hslashed := slashed_of_not_mem fun hc => (hplain '\\' hc).2 (by simp)
  have hscheme : scheme? (joinSegments (first :: rest)) = none := scheme?_slash _
  have hslash : '/' ∉ first := fun hc =>
    ((hsegments first List.mem_cons_self).solid '/' hc).2 (by simp)
  rw [Location.path, String.toList_ofList, hclean, hquery, hscheme]
  simp only [hslashed, relative_joinSegments hfirst hslash, rooted_joinSegments hsegments]

end AccountPortal.Page.Location

namespace AccountPortal.Host.Site

open Page

def pagePaths : List (List Char) :=
  ["/".toList, "/login".toList, "/signup".toList, "/dashboard".toList]

/-- The paths that lead to a page only in the application. -/
def loosePaths : List (List Char) :=
  ["".toList, "/login/".toList, "/signup/".toList, "/dashboard/".toList]

/-- The path is that of the bundle, or goes on from there. -/
def UnderBundle (path : List Char) : Prop := path = "/pkg".toList ∨ "/pkg/".toList <+: path

def notFound : List Markup.Node := [.text "Page not found."]

/-- What the server has at the paths of the pages, and that it has nothing elsewhere. -/
theorem resource?_cases {path : List Char} (hprobe : path ≠ "/healthz".toList)
    (hbundle : ¬ UnderBundle path) :
    (path ∈ pagePaths ∧ ∃ place, resource? path = some (.page place)) ∨
      (path ∉ pagePaths ∧ resource? path = none) := by
  rw [UnderBundle, not_or, ← List.isPrefixOf_iff_prefix, Bool.not_eq_true] at hbundle
  by_cases hmem : path ∈ pagePaths
  · refine Or.inl ⟨hmem, ?_⟩
    simp only [pagePaths, List.mem_cons, List.not_mem_nil, or_false] at hmem
    rcases hmem with rfl | rfl | rfl | rfl
    · exact ⟨.home, rfl⟩
    · exact ⟨.page .login, rfl⟩
    · exact ⟨.page .signup, rfl⟩
    · exact ⟨.page .dashboard, rfl⟩
  · refine Or.inr ⟨hmem, ?_⟩
    simp only [pagePaths, List.mem_cons, List.not_mem_nil, or_false, not_or] at hmem
    obtain ⟨hhome, hlogin, hsignup, hdashboard⟩ := hmem
    rw [resource?, if_neg hprobe, if_neg hhome, if_neg hlogin, if_neg hsignup, if_neg hdashboard,
      decide_eq_false hbundle.1, hbundle.2]
    rfl

theorem answersTo_iff (place : App.Match) (path : List Char) :
    App.answersTo place path = true ↔
      path = '/' :: App.segment place ∨
      (path = '/' :: (App.segment place ++ ['/']) ∧ App.segment place ≠ []) ∨
      (path = [] ∧ App.segment place = []) := by
  unfold App.answersTo
  split
  · simp
  · simp
  · simp_all

theorem isSome_route?_iff (path : List Char) :
    (App.route? path).isSome = true ↔ path ∈ pagePaths ∨ path ∈ loosePaths := by
  rw [App.route?, List.find?_isSome]
  constructor
  · rintro ⟨place, _, h⟩
    have hplace := (answersTo_iff place path).mp h
    cases place with
    | home =>
      rcases hplace with rfl | ⟨_, hne⟩ | ⟨rfl, _⟩
      · exact Or.inl (by decide)
      · exact absurd rfl hne
      · exact Or.inr (by decide)
    | page route =>
      rcases hplace with rfl | ⟨rfl, _⟩ | ⟨_, hnil⟩
      · exact Or.inl (by cases route <;> decide)
      · exact Or.inr (by cases route <;> decide)
      · cases route <;> contradiction
  · simp only [pagePaths, loosePaths, List.mem_cons, List.not_mem_nil, or_false]
    rintro ((rfl | rfl | rfl | rfl) | rfl | rfl | rfl | rfl)
    · exact ⟨.home, by decide, rfl⟩
    · exact ⟨.page .login, by decide, rfl⟩
    · exact ⟨.page .signup, by decide, rfl⟩
    · exact ⟨.page .dashboard, by decide, rfl⟩
    · exact ⟨.home, by decide, rfl⟩
    · exact ⟨.page .login, by decide, rfl⟩
    · exact ⟨.page .signup, by decide, rfl⟩
    · exact ⟨.page .dashboard, by decide, rfl⟩

theorem pageView_ne_notFound (path : List Char) (route : Route) :
    App.pageView path route ≠ notFound := by
  intro h
  cases route <;> exact nomatch (List.cons.inj h).1

theorem view_eq_notFound_iff (path : List Char) :
    App.view path = notFound ↔ App.route? path = none := by
  unfold App.view
  split
  · rename_i route hroute
    simp [hroute, pageView_ne_notFound]
  · rename_i hroute
    simp [hroute, notFound]
  · rename_i hroute
    simp [hroute, notFound]

/-- The application shows something of its own exactly at the paths of the pages and at
the loose ones. -/
theorem view_ne_notFound_iff (path : List Char) :
    App.view path ≠ notFound ↔ path ∈ pagePaths ∨ path ∈ loosePaths := by
  rw [← isSome_route?_iff, Ne, view_eq_notFound_iff, Option.isSome_iff_ne_none]

theorem not_mem_pagePaths {path : List Char} (h : path ∈ loosePaths) : path ∉ pagePaths := by
  revert path
  decide

/-- A page, or the way on to one, with what the application shows at the path. -/
structure Rendered (path : List Char) (r : Response) : Prop where
  status : r.status = 200 ∨ r.status = 302
  contentType : r.contentType = some "text/html; charset=utf-8"
  body : r.body = Markup.html (App.view path)

theorem rendered_pageResponse (place : App.Match) (path : List Char) (accept : Option String) :
    Rendered path (pageResponse place path accept) where
  status := by
    unfold pageResponse
    split
    · exact Or.inr rfl
    · exact Or.inl rfl
  contentType := rfl
  body := rfl

theorem not_rendered_bare (path : List Char) (status : Nat) : ¬ Rendered path (bare status) :=
  fun h => nomatch h.contentType

theorem serve_get {lookup : String → Option String} (hoptions : Options.check lookup = .ok ())
    {target : String} {path : List Char} (htarget : Target.path target = .ok path)
    {accept : Option String} (haccept : accept.all Target.isHeaderValue = true) :
    serve lookup ⟨"GET", target, accept⟩ =
      .ok (respond (Options.siteRoot lookup) "GET" path accept) := by
  have hmethod : Target.isMethod "GET" = true := by decide
  simp only [serve, hoptions, htarget, haccept, hmethod]
  rfl

/-- A page is answered at the paths of the pages, and elsewhere that there is nothing. -/
theorem respond_get (siteRoot : String) {path : List Char} (hprobe : path ≠ "/healthz".toList)
    (hbundle : ¬ UnderBundle path) (accept : Option String) :
    (path ∈ pagePaths ∧ Rendered path (respond siteRoot "GET" path accept)) ∨
      (path ∉ pagePaths ∧ respond siteRoot "GET" path accept = bare 404) := by
  rcases resource?_cases hprobe hbundle with ⟨hmem, place, hplace⟩ | ⟨hmem, hnone⟩
  · have hlook : Look.ofMethod? "GET" = some .whole := rfl
    refine Or.inl ⟨hmem, ?_⟩
    rw [respond, hplace, hlook]
    exact rendered_pageResponse place path accept
  · exact Or.inr ⟨hmem, by rw [respond, hnone]⟩

/-- Where the server answers with a page the application has one, and where it has none
the server answers that there is nothing. The other way round the loose paths make the
difference: there the application has a page, and the server answers that there is
nothing. The application sees the path that is asked for if it is a plain one. -/
theorem pages_agree (lookup : String → Option String) (hoptions : Options.check lookup = .ok ())
    (target : String) (path : List Char) (htarget : Target.path target = .ok path)
    (accept : Option String) (haccept : accept.all Target.isHeaderValue = true)
    (hprobe : path ≠ "/healthz".toList) (hbundle : ¬ UnderBundle path) :
    ∃ r, serve lookup ⟨"GET", target, accept⟩ = .ok r ∧
      (path ∉ loosePaths → (Rendered path r ↔ App.view path ≠ notFound)) ∧
      (path ∈ loosePaths → r = bare 404 ∧ App.view path ≠ notFound) ∧
      (¬ Rendered path r → r = bare 404) ∧
      (App.view path ≠ notFound ↔ (App.route? path).isSome = true) ∧
      (Location.IsPlain path → Location.path (String.ofList path) = path) := by
  refine ⟨_, serve_get hoptions htarget haccept, ?_, ?_, ?_, ?_, Location.path_of_isPlain⟩
  · intro hloose
    rw [view_ne_notFound_iff, or_iff_left hloose]
    rcases respond_get (Options.siteRoot lookup) hprobe hbundle accept with
      ⟨hmem, hpage⟩ | ⟨hmem, hnothing⟩
    · exact iff_of_true hpage hmem
    · exact iff_of_false (hnothing ▸ not_rendered_bare path 404) hmem
  · intro hloose
    refine ⟨?_, (view_ne_notFound_iff path).mpr (Or.inr hloose)⟩
    rcases respond_get (Options.siteRoot lookup) hprobe hbundle accept with
      ⟨hmem, _⟩ | ⟨_, hnothing⟩
    · exact absurd hmem (not_mem_pagePaths hloose)
    · exact hnothing
  · intro hpage
    rcases respond_get (Options.siteRoot lookup) hprobe hbundle accept with
      ⟨_, hpage'⟩ | ⟨_, hnothing⟩
    · exact absurd hpage' hpage
    · exact hnothing
  · rw [view_ne_notFound_iff, isSome_route?_iff]

theorem pages_agree_signup :
    ∃ r, serve (fun _ => none) ⟨"GET", "/signup?from=x", some "text/html"⟩ = .ok r ∧
      Rendered "/signup".toList r := by
  have hbundle : ¬ UnderBundle "/signup".toList := by
    rintro (h | h)
    · exact absurd h (by decide)
    · exact absurd h (by decide)
  obtain ⟨r, hserved, hagree, _⟩ := pages_agree (fun _ => none) rfl "/signup?from=x"
    "/signup".toList (by decide +kernel) (some "text/html") (by decide +kernel) (by decide) hbundle
  have hview : App.view "/signup".toList ≠ notFound :=
    (view_ne_notFound_iff _).mpr (Or.inl (by decide))
  exact ⟨r, hserved, (hagree (by decide)).mpr hview⟩

/-- One slash too many: the application has its login page there, the server has nothing. -/
theorem slash_behind_page :
    ¬ ∀ (lookup : String → Option String) (target : String) (path : List Char)
        (accept : Option String),
      Options.check lookup = .ok () → Target.path target = .ok path →
      accept.all Target.isHeaderValue = true → path ≠ "/healthz".toList → ¬ UnderBundle path →
      ∃ r, serve lookup ⟨"GET", target, accept⟩ = .ok r ∧
        (Rendered path r ↔ App.view path ≠ notFound) ∧ (¬ Rendered path r → r = bare 404) := by
  intro h
  have hbundle : ¬ UnderBundle "/login/".toList := by
    rintro (h | h)
    · exact absurd h (by decide)
    · exact absurd h (by decide)
  obtain ⟨r, hserved, hagree, _⟩ := h (fun _ => none) "/login/" "/login/".toList none rfl
    (by decide +kernel) rfl (by decide) hbundle
  have hnothing : serve (fun _ => none) ⟨"GET", "/login/", none⟩ = .ok (bare 404) := by
    decide +kernel
  have hview : App.view "/login/".toList ≠ notFound :=
    (view_ne_notFound_iff _).mpr (Or.inr (by decide))
  obtain rfl : r = bare 404 := Except.ok.inj (hserved.symm.trans hnothing)
  exact not_rendered_bare _ _ (hagree.mpr hview)

end AccountPortal.Host.Site
