import AccountPortal.Proofs.Json.RoundTrip

/-!
A written value in which more arrays and objects are open at once than the reader
allows is refused for just that. All that stands before the first part that lies
too deep is read back, so there is nothing else for the reader to stop at.
-/
namespace AccountPortal.Json

variable {freeForm : Bool}

/-- A reading stops at a part that lies too deep. -/
def StopsDeep {α : Type} (r : Read α) : Prop := ∃ s, r = .error (.on .tooDeep s)

/-- Within less than its own depth a value is not read, however many steps there are
beyond those that its text pays for. -/
def Refused (freeForm : Bool) (v : Value) : Prop :=
  ∀ steps depth rest, EndsNumber rest → depth < v.depth → 2 * v.write.length ≤ steps →
    StopsDeep (readValueIn freeForm steps depth (v.write ++ rest))

theorem StopsDeep.map {α β : Type} {r : Read α} (h : StopsDeep r)
    (f : α × List Char → β × List Char) : StopsDeep (r.map f) := by
  obtain ⟨s, rfl⟩ := h
  exact ⟨s, rfl⟩

section Open

variable (steps depth : Nat) (s : List Char)

theorem readValueIn_zero_array :
    readValueIn freeForm (steps + 1) 0 ('[' :: s) = .error (.on .tooDeep ('[' :: s)) := by
  simp [readValueIn, skipBlanks]

theorem readValueIn_zero_object :
    readValueIn freeForm (steps + 1) 0 ('\x7b' :: s) = .error (.on .tooDeep ('\x7b' :: s)) := by
  simp [readValueIn, skipBlanks]

theorem readValueIn_succ_array {c : Char} (hc : Opens c) :
    readValueIn freeForm (steps + 1) (depth + 1) ('[' :: c :: s) =
      (readItemsIn freeForm steps depth (c :: s)).map
        fun (items, rest) => (.array items, rest) := by
  simp [readValueIn, skipBlanks, readItemStart_opens hc]

theorem readValueIn_succ_object {key : String} (hkey : ¬ (freeForm = true ∧ key = embeddedKey)) :
    readValueIn freeForm (steps + 1) (depth + 1)
        ('\x7b' :: '"' :: (key.toList.flatMap writeChar ++ '"' :: ':' :: s)) =
      (readMembersIn freeForm steps depth key s).map
        fun (members, rest) => (.object members, rest) := by
  simp [readValueIn, skipBlanks, readMemberStart_quote, readString_write, readColon_colon, hkey]

end Open

/-- Of a list of items the first ones are read back, until one is refused. -/
theorem readItemsIn_tooDeep (rest : List Char) (v : Value) (items : List Value)
    (hback : ∀ w ∈ v :: items, ReadsBack freeForm w)
    (hrefused : ∀ w ∈ v :: items, Refused freeForm w)
    (hint : ∀ w ∈ v :: items, w.Integral) (steps depth : Nat)
    (hdepth : depth < Value.itemsDepth (v :: items))
    (hsteps : 2 * (writeItems (v :: items)).length < steps) :
    StopsDeep (readItemsIn freeForm steps depth (writeItems (v :: items) ++ ']' :: rest)) := by
  induction items generalizing v steps with
  | nil =>
    obtain ⟨n, rfl⟩ : ∃ n, steps = n + 1 := ⟨steps - 1, by omega⟩
    have hv : Refused freeForm v := hrefused v List.mem_cons_self
    obtain ⟨s, hstop⟩ := hv n depth (']' :: rest) (endsNumber_cons (by decide))
      (by simpa only [Value.itemsDepth, Nat.max_zero] using hdepth)
      (by simp only [writeItems] at hsteps; omega)
    exact ⟨s, by simp [readItemsIn, writeItems, hstop]⟩
  | cons w items ih =>
    obtain ⟨n, rfl⟩ : ∃ n, steps = n + 1 := ⟨steps - 1, by omega⟩
    rw [writeItems_cons, List.length_append, moreItems, List.length_cons] at hsteps
    rw [Value.itemsDepth] at hdepth
    have hend : EndsNumber (',' :: (writeItems (w :: items) ++ ']' :: rest)) :=
      endsNumber_cons (by decide)
    by_cases hdeep : depth < v.depth
    · obtain ⟨s, hstop⟩ := hrefused v List.mem_cons_self n depth _ hend hdeep (by omega)
      exact ⟨s, by simp [readItemsIn, writeItems_cons v, moreItems, hstop]⟩
    · have hread := hback v List.mem_cons_self n depth _ hend (by omega) (by omega)
      obtain ⟨s, hstop⟩ := ih w (fun u hu => hback u (List.mem_cons_of_mem _ hu))
        (fun u hu => hrefused u (List.mem_cons_of_mem _ hu))
        (fun u hu => hint u (List.mem_cons_of_mem _ hu)) n (by omega) (by omega)
      obtain ⟨c, t, heq, hc⟩ := exists_writeItems_eq_cons (hint w (by simp)) items
      rw [heq, List.cons_append] at hread hstop
      refine ⟨s, ?_⟩
      simp [readItemsIn, writeItems_cons v, moreItems, heq, hread, readItemEnd_comma hc, hstop,
        Except.map]

theorem readMembersIn_tooDeep (rest : List Char) (key : String) (v : Value)
    (members : List (String × Value)) (hback : ∀ x ∈ (key, v) :: members, ReadsBack freeForm x.2)
    (hrefused : ∀ x ∈ (key, v) :: members, Refused freeForm x.2) (steps depth : Nat)
    (hdepth : depth < Value.membersDepth ((key, v) :: members))
    (hsteps : 2 * (v.write.length + (moreMembers members).length) < steps) :
    StopsDeep (readMembersIn freeForm steps depth key
      (v.write ++ (moreMembers members ++ '\x7d' :: rest))) := by
  induction members generalizing key v steps with
  | nil =>
    obtain ⟨n, rfl⟩ : ∃ n, steps = n + 1 := ⟨steps - 1, by omega⟩
    have hv : Refused freeForm v := hrefused (key, v) List.mem_cons_self
    obtain ⟨s, hstop⟩ := hv n depth ('\x7d' :: rest) (endsNumber_cons (by decide))
      (by simpa only [Value.membersDepth, Nat.max_zero] using hdepth) (by omega)
    exact ⟨s, by simp [readMembersIn, moreMembers, hstop]⟩
  | cons m members ih =>
    obtain ⟨n, rfl⟩ : ∃ n, steps = n + 1 := ⟨steps - 1, by omega⟩
    obtain ⟨next, w⟩ := m
    rw [Value.membersDepth] at hdepth
    simp only [moreMembers_cons, List.length_cons, List.length_append] at hsteps
    have hend := endsNumber_moreMembers ((next, w) :: members) rest
    by_cases hdeep : depth < v.depth
    · have hv : Refused freeForm v := hrefused (key, v) List.mem_cons_self
      obtain ⟨s, hstop⟩ := hv n depth _ hend hdeep (by omega)
      exact ⟨s, by rw [readMembersIn, hstop]⟩
    · have hv : ReadsBack freeForm v := hback (key, v) List.mem_cons_self
      have hread := hv n depth _ hend (by omega) (by omega)
      obtain ⟨s, hstop⟩ := ih next w (fun x hx => hback x (List.mem_cons_of_mem _ hx))
        (fun x hx => hrefused x (List.mem_cons_of_mem _ hx)) n (by omega) (by omega)
      refine ⟨s, ?_⟩
      rw [readMembersIn, hread]
      simp [moreMembers_cons, readMemberEnd_comma, readString_write, readColon_colon, hstop,
        Except.map]

theorem refused_of_fits {v : Value} (hfits : v.Fits) (hplain : v.Plain freeForm) :
    Refused freeForm v := by
  induction v using Value.induct with
  | null => exact fun _ _ _ _ hdeep => absurd hdeep (Nat.not_lt_zero _)
  | bool b => exact fun _ _ _ _ hdeep => absurd hdeep (Nat.not_lt_zero _)
  | number n => exact fun _ _ _ _ hdeep => absurd hdeep (Nat.not_lt_zero _)
  | string s => exact fun _ _ _ _ hdeep => absurd hdeep (Nat.not_lt_zero _)
  | array items ih =>
    intro steps depth rest _ hdeep hsteps
    have hpos := write_length_pos hfits.integral
    obtain ⟨n, rfl⟩ : ∃ n, steps = n + 1 := ⟨steps - 1, by omega⟩
    cases depth with
    | zero => exact ⟨_, readValueIn_zero_array n _⟩
    | succ depth =>
      have hitems := Value.integral_array.mp hfits.integral
      have hfitsAll := Value.fits_array.mp hfits
      have hplainAll := Value.plain_array.mp hplain
      cases items with
      | nil => simp [Value.depth, Value.itemsDepth] at hdeep
      | cons v items =>
        have hstop := readItemsIn_tooDeep rest v items
          (fun w hw => readsBack_of_fits (hfitsAll w hw) (hplainAll w hw))
          (fun w hw => ih w hw (hfitsAll w hw) (hplainAll w hw)) hitems n depth
          (by rw [Value.depth] at hdeep; omega)
          (by
            simp only [Value.write, List.length_cons, List.length_append] at hsteps
            omega)
        obtain ⟨c, s, heq, hc⟩ := exists_writeItems_eq_cons (hitems v List.mem_cons_self) items
        rw [heq, List.cons_append] at hstop
        simp only [Value.write, heq, List.cons_append, List.append_assoc, List.nil_append,
          readValueIn_succ_array n depth _ hc]
        exact hstop.map _
  | object members ih =>
    intro steps depth rest _ hdeep hsteps
    have hpos := write_length_pos hfits.integral
    obtain ⟨n, rfl⟩ : ∃ n, steps = n + 1 := ⟨steps - 1, by omega⟩
    cases depth with
    | zero => exact ⟨_, readValueIn_zero_object n _⟩
    | succ depth =>
      have hfitsAll := Value.fits_object.mp hfits
      have hplainAll := Value.plain_object.mp hplain
      cases members with
      | nil => simp [Value.depth, Value.membersDepth] at hdeep
      | cons m members =>
        obtain ⟨key, v⟩ := m
        have hkey : ¬ (freeForm = true ∧ key = embeddedKey) := fun h =>
          (hplainAll (key, v) List.mem_cons_self).1 h.1 h.2
        have hstop := readMembersIn_tooDeep rest key v members
          (fun x hx => readsBack_of_fits (hfitsAll x hx) (hplainAll x hx).2)
          (fun x hx => ih x hx (hfitsAll x hx) (hplainAll x hx).2) n depth
          (by rw [Value.depth] at hdeep; omega)
          (by
            simp only [Value.write, writeMembers_cons, List.length_cons, List.length_append]
              at hsteps
            omega)
        simp only [Value.write, writeMembers_cons, List.cons_append, List.append_assoc,
          List.nil_append, readValueIn_succ_object n depth _ hkey]
        exact hstop.map _

/-- A free-form text that nests more than the reader allows is an error with a place. -/
theorem parse_tooDeep {v : Value} (hfits : v.Fits) (hkeys : embeddedKey ∉ v.keys)
    (hdeep : depthLimit < v.depth) : ∃ p, parse v.compact = .error ⟨.tooDeep, some p⟩ := by
  obtain ⟨s, hstop⟩ := refused_of_fits hfits (fun _ => hkeys : v.Plain true)
    (stepBound v.write) depthLimit [] endsNumber_nil hdeep (by rw [stepBound]; omega)
  rw [List.append_nil] at hstop
  obtain ⟨p, hp⟩ : ∃ p, (Fault.on .tooDeep s).locate v.write = ⟨.tooDeep, some p⟩ := ⟨_, rfl⟩
  exact ⟨p, by simp [parse, decode, Value.compact, readFreeForm, readFreeFormWithin, hstop,
    Except.map, hp]⟩

end AccountPortal.Json
