import LoadHarness.Header

/-!
# Headers that are given and headers that are carried

`Header.checkAll` looks for a colon in every header and `Header.readAll` cuts them there, so that
both refuse the same lists for the same reason (`checkAll_eq_readAll`). A colon is not enough for a
request to carry a header : the name and the value must fit as well (`Fits`). `Header.carryAll`
succeeds if all of a list fit, and otherwise names the first that does not (`carryAll_of_readAll`).
-/

namespace LoadHarness.Header

variable {text : String} {headers : List String} {p : String × String}
  {pairs : List (String × String)} {e : CarryError}

/-! ## Reading -/

theorem split?_eq_none_iff : split? text = none ↔ hasColon text = false := by
  rw [← isSome_split?, Option.isSome_eq_false_iff, Option.isNone_iff_eq_none]

/-- Looking for colons and cutting there come to the same verdict. -/
theorem checkAll_eq_readAll (headers : List String) :
    checkAll headers = (readAll headers).map fun _ => () := by
  induction headers with
  | nil => rfl
  | cons h hs ih =>
    cases hp : split? h with
    | none => simp [checkAll, readAll, hp, split?_eq_none_iff.1 hp, Except.map]
    | some p =>
      have hc : hasColon h = true := by rw [← isSome_split?, hp]; rfl
      have hcheck : checkAll (h :: hs) = checkAll hs := by simp [checkAll, hc]
      have hread : readAll (h :: hs) = (readAll hs).map (p :: ·) := by simp [readAll, hp]
      rw [hcheck, hread, ih]
      cases readAll hs <;> rfl

/-- What is read of a list are its headers, each of them cut. -/
theorem map_split?_of_readAll (h : readAll headers = .ok pairs) :
    headers.map split? = pairs.map some := by
  induction headers generalizing pairs with
  | nil =>
    obtain rfl := Except.ok.inj h
    rfl
  | cons t ts ih =>
    rw [readAll] at h
    split at h
    case h_1 => exact absurd h (by simp)
    case h_2 p hp =>
      cases hr : readAll ts with
      | error e => simp [hr, Except.map] at h
      | ok ps =>
        rw [hr] at h
        obtain rfl := Except.ok.inj h
        simp [hp, ih hr]

/-! ## Carrying -/

/-- Whether a request can carry a header as users give it. -/
def Fits (text : String) : Prop :=
  ∃ p, split? text = some p ∧ (nameOf? p.1).isSome = true ∧ isValue p.2 = true

/-- Why a request cannot carry a pair, if it cannot. -/
def fault? (p : String × String) : Option CarryError :=
  match carry p with
  | .ok _ => none
  | .error e => some e

/-- Why a request cannot carry a header that has a colon, if it cannot. -/
def refusal? (text : String) : Option CarryError := (split? text).bind fault?

theorem refusal?_eq_some_iff :
    refusal? text = some e ↔ ∃ p, split? text = some p ∧ carry p = .error e := by
  rw [refusal?, Option.bind_eq_some_iff]
  refine exists_congr fun p => and_congr_right fun _ => ?_
  rw [fault?]
  cases carry p <;> simp

theorem fits_iff (h : hasColon text = true) : Fits text ↔ refusal? text = none := by
  rw [← isSome_split?] at h
  obtain ⟨p, hp⟩ := Option.isSome_iff_exists.1 h
  cases hn : nameOf? p.1 <;> cases hv : isValue p.2 <;>
    simp [Fits, refusal?, fault?, hp, carry, hn, hv]

/-- Pairs are put into a request up to the first at fault, whatever it carries already. -/
theorem foldlM_carry (pairs carried : List (String × String)) :
    match pairs.findSome? fault? with
    | some e => pairs.foldlM (fun headers p => (carry p).map (insert headers)) carried = .error e
    | none => ∃ all,
        pairs.foldlM (fun headers p => (carry p).map (insert headers)) carried = .ok all := by
  induction pairs generalizing carried with
  | nil => exact ⟨carried, rfl⟩
  | cons p ps ih =>
    cases hc : carry p with
    | error e =>
      have hf : fault? p = some e := by rw [fault?, hc]
      simp only [List.findSome?_cons, hf, List.foldlM_cons, hc]
      rfl
    | ok q =>
      have hf : fault? p = none := by rw [fault?, hc]
      simp only [List.findSome?_cons, hf, List.foldlM_cons, hc]
      exact ih (insert carried q)

/-- The first header that a request cannot carry decides about a list. -/
theorem carryAll_of_readAll (h : readAll headers = .ok pairs) :
    match headers.findSome? refusal? with
    | some e => carryAll pairs = .error e
    | none => ∃ carried, carryAll pairs = .ok carried := by
  have hfirst : headers.findSome? refusal? = pairs.findSome? fault? := by
    have hmap := congrArg (List.findSome? fun p => p.bind fault?) (map_split?_of_readAll h)
    rw [List.findSome?_map, List.findSome?_map] at hmap
    exact hmap
  rw [hfirst]
  exact foldlM_carry pairs []

end LoadHarness.Header
