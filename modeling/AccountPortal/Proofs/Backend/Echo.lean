import AccountPortal.Backend.Session
import AccountPortal.Proofs.Backend.Verdict
import AccountPortal.Proofs.Json.Order
import AccountPortal.Proofs.Json.TooDeep

/-!
A backend that sends every body back. A value that is uploaded to it comes back as
the value that it was, or, if its text nests deeper than a reader goes, as an error
that says so. It never comes back as another value.
-/
namespace AccountPortal.Backend

open Http Cookie Json

/-- A wire that answers every request with the body that it came with. -/
def echo (status : Nat) (setCookies : Option String) : Wire Unit := fun _ request jar =>
  (.ok ⟨status, request.body.getD ""⟩, setCookies.or jar, ())

/-- What is read is decoded as it is, then turned into something else. -/
theorem decode_map {α β : Type} (read : List Char → Read α) (f : α → β) (text : String) :
    Json.decode (fun s => (read s).map (Prod.map f id)) text =
      (Json.decode read text).map f := by
  rw [Json.decode, Json.decode]
  cases hread : read text.toList with
  | error fault => rfl
  | ok got =>
    obtain ⟨a, rest⟩ := got
    simp only [Except.map, Prod.map_apply, id_eq]
    cases readEnd rest <;> rfl

/-- A body of free form is decoded into the value of its text. -/
theorem decodeBody_value (response : Response) :
    decodeBody Expected.value.read response =
      ((Json.parse response.body).map Decoded.value).mapError fun e => .decode e.message := by
  have hread : Expected.value.read =
      fun s => (readFreeForm s).map (Prod.map Decoded.value id) := rfl
  rw [decodeBody, hread, decode_map, Json.parse]
  cases Json.decode readFreeForm response.body <;> rfl

/-- An upload to such a backend sends the text of the value, and decodes that text. -/
theorem run_upload_echo (base : Base) (jar : Jar) (kind : Upload) (path : String)
    (setCookies : Option String) (v : Value) {status : Nat} (hstatus : Success status) :
    ((Operation.upload kind path (some v) .value).run base (echo status setCookies) () jar).1 =
      ⟨.decoded (((Json.parse v.compact).map Decoded.value).mapError fun e => .decode e.message),
      [buildRequest base jar kind.method path (some v.compact)],
      [⟨.debug, kind.method.name ++ " " ++ base.endpoint path⟩]⟩ := by
  have hresult : (accepted (.ok ⟨status, v.compact⟩) >>= decodeBody Expected.value.read) =
      decodeBody Expected.value.read ⟨status, v.compact⟩ := accepted_bind_of_success hstatus _
  rw [decodeBody_value] at hresult
  rw [← hresult]
  rfl

/-- A value comes back as it was if no more than 127 arrays and objects are open at once
in its text, though the members of its objects may come back in order; otherwise the
upload fails as its answer is decoded. -/
theorem upload_returns_value (base : Base) (jar : Jar) (kind : Upload) (path : String)
    (setCookies : Option String) (status : Nat) (hstatus : Success status) (v : Value)
    (hfits : v.Fits) (hdistinct : v.Distinct) (hkeys : embeddedKey ∉ v.keys) :
    let step :=
      ((Operation.upload kind path (some v) .value).run base (echo status setCookies) () jar).1
    step.sent = [buildRequest base jar kind.method path (some v.compact)] ∧
    (v.depth ≤ 127 → ∃ w, step.answer = .decoded (.ok (.value w)) ∧ v.Same w ∧
      (v.InOrder → w = v)) ∧
    (127 < v.depth → ∃ p, step.answer =
      .decoded (.error (.decode (Json.Error.message ⟨.tooDeep, some p⟩)))) ∧
    ∀ w, step.answer = .decoded (.ok (.value w)) → v.Same w ∧ (v.InOrder → w = v) := by
  intro step
  have hrun : step = _ := run_upload_echo base jar kind path setCookies v hstatus
  have hback : v.depth ≤ 127 → step.answer = .decoded (.ok (.value v.normal)) := by
    intro hdepth
    rw [hrun, parse_compact hfits hdepth hkeys]
    rfl
  have hdeep : 127 < v.depth → ∃ p, step.answer =
      .decoded (.error (.decode (Json.Error.message ⟨.tooDeep, some p⟩))) := by
    intro hdepth
    obtain ⟨p, hparse⟩ := parse_tooDeep hfits hkeys hdepth
    exact ⟨p, by rw [hrun, hparse]; rfl⟩
  refine ⟨by rw [hrun], ?_, hdeep, ?_⟩
  · intro hdepth
    exact ⟨v.normal, hback hdepth, Value.same_normal hdistinct, Value.normal_eq_self⟩
  · intro w hw
    rcases Nat.lt_or_ge 127 v.depth with hdepth | hdepth
    · obtain ⟨p, hp⟩ := hdeep hdepth
      rw [hp] at hw
      cases hw
    · rw [hback hdepth] at hw
      cases hw
      exact ⟨Value.same_normal hdistinct, Value.normal_eq_self⟩

def boxed (v : Value) : Nat → Value
  | 0 => v
  | n + 1 => .array [boxed v n]

section Boxed

variable (v : Value) (n : Nat)

theorem depth_boxed : (boxed v n).depth = v.depth + n := by
  induction n with
  | zero => rfl
  | succ n ih =>
    rw [boxed, Value.depth, Value.itemsDepth, Value.itemsDepth, ih, Nat.max_zero]
    rfl

theorem numbers_boxed : (boxed v n).numbers = v.numbers := by
  induction n with
  | zero => rfl
  | succ n ih =>
    rw [boxed, Value.numbers, Value.itemsNumbers, Value.itemsNumbers, ih, List.append_nil]

theorem keys_boxed : (boxed v n).keys = v.keys := by
  induction n with
  | zero => rfl
  | succ n ih => rw [boxed, Value.keys, Value.itemsKeys, Value.itemsKeys, ih, List.append_nil]

theorem objects_boxed : (boxed v n).objects = v.objects := by
  induction n with
  | zero => rfl
  | succ n ih =>
    rw [boxed, Value.objects, Value.itemsObjects, Value.itemsObjects, ih, List.append_nil]

end Boxed

def parcel : Value :=
  .object [("b", .number (.integer (-9223372036854775808))),
    ("a", .object [("\"", .string "\n"), ("", .null)])]

theorem upload_returns_value_parcel :
    let step (n : Nat) :=
      ((Operation.upload .patch "/echo/" (some (boxed parcel n)) .value).run .default
        (echo 201 none) () none).1
    (∃ w, (step 125).answer = .decoded (.ok (.value w)) ∧ (boxed parcel 125).Same w) ∧
    ∃ p, (step 126).answer =
      .decoded (.error (.decode (Json.Error.message ⟨.tooDeep, some p⟩))) := by
  have hsuccess : Success 201 := by simp [Success]
  have hfits (n : Nat) : (boxed parcel n).Fits := by
    rw [Value.Fits, numbers_boxed]
    simp [parcel, Value.numbers, Value.membersNumbers, InWord]
  have hdistinct (n : Nat) : (boxed parcel n).Distinct := by
    rw [Value.Distinct, objects_boxed]
    decide
  have hkeys (n : Nat) : embeddedKey ∉ (boxed parcel n).keys := by
    rw [keys_boxed]
    decide
  have hdepth (n : Nat) : (boxed parcel n).depth = 2 + n := depth_boxed parcel n
  obtain ⟨_, hback, _⟩ := upload_returns_value .default none .patch "/echo/" none 201 hsuccess
    (boxed parcel 125) (hfits 125) (hdistinct 125) (hkeys 125)
  obtain ⟨_, _, hdeep, _⟩ := upload_returns_value .default none .patch "/echo/" none 201 hsuccess
    (boxed parcel 126) (hfits 126) (hdistinct 126) (hkeys 126)
  obtain ⟨w, hw, hsame, _⟩ := hback (Nat.le_of_eq (hdepth 125))
  exact ⟨⟨w, hw, hsame⟩, hdeep (Nat.le_of_eq (hdepth 126).symm)⟩

end AccountPortal.Backend
