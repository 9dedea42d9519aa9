import LoadHarness.Proofs.Json.Scalar

/-!
# Reading values

`Reads` relates a reader to the texts of what it reads : blank space in front of a text is skipped,
and something that can follow a value (`Ends`) may follow. If a reader of items is so related, then
so is the reader of a container of them (`container_eq_ok_iff`), and that of members
(`reads_member`). By induction on the depth that is left, so is the reader of values
(`reads_value`), and a whole text is read as the one value, within bounds, that it writes
(`readChars_eq_ok_iff`).
-/

namespace LoadHarness.Json

/-! ## Blank space -/

theorem isSpace_iff {c : Char} :
    isSpace c = true ↔ c = ' ' ∨ c = '\n' ∨ c = '\t' ∨ c = '\r' := by
  simp [isSpace, or_assoc]

theorem skipSpace_append {front : List Char} (h : Blank front) (cs : List Char) :
    skipSpace (front ++ cs) = skipSpace cs :=
  List.dropWhile_append_of_pos h

theorem skipSpace_of_blank {cs : List Char} (h : Blank cs) : skipSpace cs = [] := by
  rw [← List.append_nil cs, skipSpace_append h]
  rfl

/-- What is skipped is blank space. -/
theorem append_of_skipSpace {cs ds : List Char} (h : skipSpace cs = ds) :
    ∃ front, Blank front ∧ front ++ ds = cs :=
  ⟨cs.takeWhile isSpace, List.all_eq_true.1 List.all_takeWhile,
    h ▸ List.takeWhile_append_dropWhile⟩

/-- A text begins with something that neither is blank nor closes a container. -/
def Opens (ts : List Char) : Prop :=
  ∃ c cs, ts = c :: cs ∧ isSpace c = false ∧ c ≠ ']' ∧ c ≠ '\x7d'

/-- A text ends, or goes on with something that can follow a value. -/
def Ends (rest : List Char) : Prop :=
  ∀ c ∈ rest.head?, isSpace c = true ∨ c = ',' ∨ c = ']' ∨ c = '\x7d'

theorem Opens.append {ts : List Char} (h : Opens ts) (rest : List Char) : Opens (ts ++ rest) := by
  obtain ⟨c, cs, rfl, hc⟩ := h
  exact ⟨c, cs ++ rest, rfl, hc⟩

theorem skipSpace_of_opens {front ts : List Char} (hfront : Blank front) (h : Opens ts)
    (rest : List Char) : skipSpace (front ++ ts ++ rest) = ts ++ rest := by
  obtain ⟨c, cs, rfl, hc, -⟩ := h
  rw [List.append_assoc, skipSpace_append hfront, List.cons_append,
    skipSpace_of_isSpace_eq_false hc]

theorem endsNumber_of_ends {rest : List Char} (h : Ends rest) : EndsNumber rest := by
  refine ⟨fun c hc => ?_, fun c hc => ?_⟩
  · obtain hspace | rfl | rfl | rfl := h c hc
    · obtain rfl | rfl | rfl | rfl := isSpace_iff.1 hspace <;> rfl
    all_goals rfl
  · obtain hspace | rfl | rfl | rfl := h c hc
    · obtain rfl | rfl | rfl | rfl := isSpace_iff.1 hspace <;> decide
    all_goals decide

theorem ends_append {back : List Char} (h : Blank back) {c : Char} (cs : List Char)
    (hc : c = ',' ∨ c = ']' ∨ c = '\x7d') : Ends (back ++ c :: cs) := by
  intro d hd
  cases back with
  | nil =>
    obtain rfl : c = d := by simpa using hd
    exact .inr hc
  | cons b back =>
    obtain rfl : b = d := by simpa using hd
    exact .inl (h b List.mem_cons_self)

/-! ## Values that are no containers -/

theorem expect_eq_ok_iff {es cs rest : List Char} :
    expect es cs = .ok rest ↔ es ++ rest = cs := by
  induction es generalizing cs with
  | nil => simp [expect, eq_comm]
  | cons e es ih =>
    cases cs with
    | nil => simp [expect]
    | cons c cs =>
      by_cases h : e = c
      · simp [expect, h, ih]
      · simp [expect, h]

theorem of_map_expect {es cs rest : List Char} {v w : Json}
    (h : (expect es cs).map (w, ·) = .ok (v, rest)) : w = v ∧ es ++ rest = cs := by
  obtain ⟨rest, hrest, hv⟩ := map_eq_ok_iff.1 h
  obtain ⟨rfl, rfl⟩ := Prod.mk.inj hv
  exact ⟨rfl, expect_eq_ok_iff.1 hrest⟩

theorem NumberText.head {n : Number} {ts : List Char} (h : NumberText n ts) :
    ∃ c cs, ts = c :: cs ∧ (c = '-' ∨ c.isDigit = true) := by
  obtain @⟨negative, whole, fraction, ts, us, exponent, hwhole, -, -⟩ := h
  cases negative with
  | true => exact ⟨_, _, rfl, .inl rfl⟩
  | false =>
    obtain ⟨d, ds, rfl⟩ := List.exists_cons_of_ne_nil hwhole.1.1
    exact ⟨_, _, rfl, .inr (hwhole.1.2 d List.mem_cons_self)⟩

/-- A character is neither blank nor a bracket. -/
def Begins (c : Char) : Prop := isSpace c = false ∧ c ≠ '[' ∧ c ≠ ']' ∧ c ≠ '\x7b' ∧ c ≠ '\x7d'

instance : DecidablePred Begins := fun _ => inferInstanceAs (Decidable (_ ∧ _))

theorem begins_of_isDigit {c : Char} (h : c.isDigit = true) : Begins c := by
  refine ⟨Bool.eq_false_iff.2 fun hspace => ?_, ?_, ?_, ?_, ?_⟩
  · obtain rfl | rfl | rfl | rfl := isSpace_iff.1 hspace <;> cases h
  all_goals
    rintro rfl
    cases h

theorem ScalarText.head {v : Json} {ts : List Char} (h : ScalarText v ts) :
    ∃ c cs, ts = c :: cs ∧ Begins c := by
  cases h with
  | null => exact ⟨_, _, rfl, by decide⟩
  | boolTrue => exact ⟨_, _, rfl, by decide⟩
  | boolFalse => exact ⟨_, _, rfl, by decide⟩
  | string h => cases h; exact ⟨_, _, rfl, by decide⟩
  | number h =>
    obtain ⟨c, cs, rfl, rfl | hc⟩ := h.head
    · exact ⟨_, _, rfl, by decide⟩
    · exact ⟨c, cs, rfl, begins_of_isDigit hc⟩

theorem scalarText_of_scalar {cs rest : List Char} {v : Json} (h : scalar cs = .ok (v, rest)) :
    (∀ depth, Within depth v) ∧ ∃ ts, ScalarText v ts ∧ ts ++ rest = cs := by
  unfold scalar at h
  split at h
  case h_1 => cases h
  case h_2 =>
    obtain ⟨rfl, rfl⟩ := of_map_expect h
    exact ⟨fun depth => by simp [Within], _, .null, rfl⟩
  case h_3 =>
    obtain ⟨rfl, rfl⟩ := of_map_expect h
    exact ⟨fun depth => by simp [Within], _, .boolTrue, rfl⟩
  case h_4 =>
    obtain ⟨rfl, rfl⟩ := of_map_expect h
    exact ⟨fun depth => by simp [Within], _, .boolFalse, rfl⟩
  case h_5 =>
    obtain ⟨⟨s, rest⟩, hs, hv⟩ := map_eq_ok_iff.1 h
    obtain ⟨rfl, rfl⟩ := Prod.mk.inj hv
    obtain ⟨ts, hts, rfl⟩ := charsText_of_stringBody hs
    exact ⟨fun depth => by simp [Within], _, .string (.quoted (by simpa using hts)), by simp⟩
  case h_6 c cs _ _ _ _ =>
    split at h
    case isFalse => cases h
    case isTrue =>
      obtain ⟨⟨n, rest⟩, hn, hv⟩ := map_eq_ok_iff.1 h
      obtain ⟨rfl, rfl⟩ := Prod.mk.inj hv
      obtain ⟨hrange, ts, hts, happend⟩ := numberText_of_numeral hn
      exact ⟨fun depth => by simp [Within, hrange], ts, .number hts, happend⟩

theorem scalar_number {c : Char} (h : c = '-' ∨ c.isDigit = true) (cs : List Char) :
    scalar (c :: cs) = (numeral (c :: cs)).map fun p => (.number p.1, p.2) := by
  have hne : ∀ d ∈ ['n', 't', 'f', '"'], c ≠ d := by
    have hall : ∀ d ∈ ['n', 't', 'f', '"'], d ≠ '-' ∧ d.isDigit = false := by simp
    rintro d hd rfl
    simp [hall c hd] at h
  simp only [List.mem_cons, List.not_mem_nil, or_false, forall_eq_or_imp, forall_eq] at hne
  simp [scalar, hne, h]

theorem scalar_append {v : Json} {ts rest : List Char} {depth : Nat} (h : ScalarText v ts)
    (hv : Within depth v) (hrest : Ends rest) : scalar (ts ++ rest) = .ok (v, rest) := by
  cases h with
  | null => rfl
  | boolTrue => rfl
  | boolFalse => rfl
  | string h =>
    cases h with
    | quoted h => simp [scalar, stringBody_charsText h, Except.map]
  | number h =>
    have hread := numeral_append h (by simpa [Within] using hv) (endsNumber_of_ends hrest)
    obtain ⟨c, cs, rfl, hc⟩ := h.head
    rw [List.cons_append, scalar_number hc, ← List.cons_append, hread]
    rfl

/-! ## Containers -/

section Containers

variable {α : Type}

/-- What a reader reads, blank space in front of it allowed, is what is written, if it is followed
by something that can follow a value. -/
structure Reads (read : Reader α) (P : α → List Char → Prop) : Prop where
  opens : ∀ {a ts}, P a ts → Opens ts
  sound : ∀ {cs a rest}, read cs = .ok (a, rest) →
    ∃ front ts, Blank front ∧ P a ts ∧ front ++ ts ++ rest = cs
  complete : ∀ {front ts rest a}, Blank front → P a ts → Ends rest →
    read (front ++ ts ++ rest) = .ok (a, rest)

variable {read : Reader α} {P : α → List Char → Prop} {close : Char}

/-- Items up to the closing character are written there, divided by commas. -/
theorem row_of_items (h : Reads read P) {n : Nat} {cs rest : List Char} {as : List α}
    (hitems : items read close n cs = .ok (as, rest)) :
    ∃ ts, Row P as ts ∧ ts ++ close :: rest = cs := by
  induction n generalizing cs as with
  | zero => cases hitems
  | succ n ih =>
    rw [items] at hitems
    split at hitems
    case h_1 => cases hitems
    case h_2 a after hread =>
      obtain ⟨front, ts, hfront, hts, rfl⟩ := h.sound hread
      split at hitems
      case h_1 => cases hitems
      case h_2 c after hskip =>
        obtain ⟨back, hback, rfl⟩ := append_of_skipSpace hskip
        split at hitems
        case isTrue hclose =>
          obtain ⟨rfl, rfl⟩ := Prod.mk.inj (Except.ok.inj hitems)
          exact ⟨_, .last hfront hts hback, by simp [hclose]⟩
        case isFalse =>
          split at hitems
          case isFalse => cases hitems
          case isTrue hcomma =>
            obtain ⟨⟨as, rest⟩, hrest, hcons⟩ := map_eq_ok_iff.1 hitems
            obtain ⟨rfl, rfl⟩ := Prod.mk.inj hcons
            obtain ⟨us, hus, rfl⟩ := ih hrest
            exact ⟨_, .cons hfront hts hback hus, by simp [hcomma]⟩

/-- Items that are divided by commas are read up to the closing character. -/
theorem items_append (h : Reads read P) (hclose : close = ']' ∨ close = '\x7d') {n : Nat}
    {as : List α} {ts : List Char} (hts : Row P as ts) (hn : as.length ≤ n) (rest : List Char) :
    items read close n (ts ++ close :: rest) = .ok (as, rest) := by
  have hspace : isSpace close = false := by obtain rfl | rfl := hclose <;> rfl
  induction hts generalizing n with
  | @last a front ts back hfront hts hback =>
    obtain ⟨n, rfl⟩ := Nat.exists_eq_add_one_of_ne_zero (Nat.ne_zero_of_lt hn)
    have hread := h.complete hfront hts (ends_append hback rest (.inr hclose))
    rw [List.append_assoc, items, hread]
    simp only [skipSpace_append hback, skipSpace_of_isSpace_eq_false hspace, if_true]
  | @cons a as front ts back us hfront hts hback _ ih =>
    obtain ⟨n, rfl⟩ := Nat.exists_eq_add_one_of_ne_zero (Nat.ne_zero_of_lt hn)
    have hread := h.complete hfront hts (ends_append hback (us ++ close :: rest) (.inl rfl))
    have hcomma : ¬ ',' = close := by obtain rfl | rfl := hclose <;> decide
    rw [List.append_assoc, List.append_assoc, List.cons_append, items, hread]
    simp only [skipSpace_append hback, skipSpace_of_isSpace_eq_false (c := ',') rfl, if_neg hcomma,
      if_true, ih (Nat.le_of_succ_le_succ hn), Except.map]

/-- No item is written as nothing, so that a reader's bound on their number is never reached. -/
theorem Row.length_le (h : Reads read P) {as : List α} {ts : List Char} (hts : Row P as ts) :
    as.length ≤ ts.length := by
  induction hts with
  | last _ hts =>
    obtain ⟨c, cs, rfl, -⟩ := h.opens hts
    simp
    omega
  | cons _ _ _ _ ih =>
    simp
    omega

/-- Items do not begin with a closing character. -/
theorem Row.opens (h : Reads read P) {as : List α} {ts : List Char} (hts : Row P as ts)
    (rest : List Char) : Opens (skipSpace (ts ++ rest)) := by
  cases hts with
  | last hfront hts hback =>
    rw [List.append_assoc, skipSpace_of_opens hfront (h.opens hts)]
    exact (h.opens hts).append _
  | cons hfront hts hback _ =>
    rw [List.append_assoc, List.append_assoc, skipSpace_of_opens hfront (h.opens hts)]
    exact (h.opens hts).append _

/-- What stands between the brackets of a container is read as its items. -/
theorem container_eq_ok_iff (h : Reads read P) (hclose : close = ']' ∨ close = '\x7d')
    {cs rest : List Char} {as : List α} : container read close cs = .ok (as, rest) ↔
      ∃ ts, Body P as ts ∧ ts ++ close :: rest = cs := by
  constructor
  · intro hread
    unfold container at hread
    split at hread
    case h_1 => cases hread
    case h_2 c after hskip =>
      split at hread
      case isTrue hc =>
        obtain ⟨rfl, rfl⟩ := Prod.mk.inj (Except.ok.inj hread)
        obtain ⟨front, hfront, rfl⟩ := append_of_skipSpace hskip
        exact ⟨front, .empty hfront, by rw [hc]⟩
      case isFalse =>
        obtain ⟨ts, hts, happend⟩ := row_of_items h hread
        exact ⟨ts, .row hts, happend⟩
  · rintro ⟨ts, hts, rfl⟩
    cases hts with
    | empty hts =>
      have hspace : isSpace close = false := by obtain rfl | rfl := hclose <;> rfl
      simp only [container, skipSpace_append hts, skipSpace_of_isSpace_eq_false hspace,
        if_true]
    | row hts =>
      obtain ⟨c, cs, hskip, -, hbracket, hbrace⟩ := hts.opens h (close :: rest)
      have hc : ¬ c = close := by obtain rfl | rfl := hclose <;> assumption
      have hlength : as.length ≤ (ts ++ close :: rest).length := by
        have hle := hts.length_le h
        rw [List.length_append]
        omega
      simp only [container, hskip, if_neg hc, items_append h hclose hts hlength]

theorem container_append (h : Reads read P) (hclose : close = ']' ∨ close = '\x7d')
    {as : List α} {ts : List Char} (hts : Body P as ts) (rest : List Char) :
    container read close (ts ++ close :: rest) = .ok (as, rest) :=
  (container_eq_ok_iff h hclose).2 ⟨ts, hts, rfl⟩

end Containers

/-! ## Members and values -/

theorem reads_member {read : Reader Json} {P : Json → List Char → Prop} (h : Reads read P) :
    Reads (member read) (MemberText P) where
  opens := by
    rintro _ _ ⟨⟨_⟩, -, -, -⟩
    exact ⟨'"', _, rfl, rfl, by decide, by decide⟩
  sound := by
    intro cs a rest hread
    unfold member at hread
    split at hread
    case h_1 => cases hread
    case h_3 => cases hread
    case h_2 cs hskip =>
      obtain ⟨front, hfront, rfl⟩ := append_of_skipSpace hskip
      split at hread
      case h_1 => cases hread
      case h_2 name after hname =>
        obtain ⟨ts, hts, rfl⟩ := charsText_of_stringBody hname
        split at hread
        case h_1 => cases hread
        case h_3 => cases hread
        case h_2 after hcolon =>
          obtain ⟨gap, hgap, rfl⟩ := append_of_skipSpace hcolon
          obtain ⟨⟨v, rest⟩, hv, ha⟩ := map_eq_ok_iff.1 hread
          obtain ⟨rfl, rfl⟩ := Prod.mk.inj ha
          obtain ⟨front', us, hfront', hus, rfl⟩ := h.sound hv
          have hname : StringText (String.ofList name) ('"' :: ts ++ ['"']) :=
            .quoted (by rwa [String.toList_ofList])
          exact ⟨front, _, hfront, .intro hname hgap hfront' hus, by simp⟩
  complete := by
    intro front ts rest a hfront hts hrest
    obtain @⟨name, v, ts, gap, front', us, ⟨hts⟩, hgap, hfront', hus⟩ := hts
    have hread := h.complete hfront' hus hrest
    have hskip (cs : List Char) : skipSpace (gap ++ ':' :: cs) = ':' :: cs := by
      rw [skipSpace_append hgap, skipSpace_of_isSpace_eq_false rfl]
    simp only [List.append_assoc, List.cons_append] at hread ⊢
    simp [member, skipSpace_append hfront, skipSpace_of_isSpace_eq_false (c := '"') rfl,
      stringBody_charsText hts, hskip, hread, Except.map]

theorem Written.opens {v : Json} {ts : List Char} (h : Written v ts) : Opens ts := by
  cases h with
  | array => exact ⟨_, _, rfl, by decide⟩
  | object => exact ⟨_, _, rfl, by decide⟩
  | scalar h =>
    obtain ⟨c, cs, rfl, hspace, -, hbracket, -, hbrace⟩ := h.head
    exact ⟨c, cs, rfl, hspace, hbracket, hbrace⟩

/-- Where no bracket opens a container, a value that is none is read. -/
theorem value_scalar {v : Json} {front ts : List Char} (depth : Nat) (hfront : Blank front)
    (h : ScalarText v ts) (rest : List Char) :
    value depth (front ++ ts ++ rest) = scalar (ts ++ rest) := by
  have hskip := skipSpace_of_opens hfront (Written.scalar h).opens rest
  obtain ⟨c, cs, rfl, -, hbracket, -, hbrace, -⟩ := h.head
  rw [List.append_assoc, List.cons_append] at hskip ⊢
  cases depth <;> simp [value, hskip, hbracket, hbrace]

section Items

variable {α : Type} {P : α → List Char → Prop} {Q : α → Prop}

theorem row_and_iff {as : List α} {ts : List Char} :
    Row (fun a ts => P a ts ∧ Q a) as ts ↔ Row P as ts ∧ ∀ a ∈ as, Q a := by
  constructor
  · intro h
    induction h with
    | last hfront h hback => exact ⟨.last hfront h.1 hback, by simpa using h.2⟩
    | cons hfront h hback _ ih =>
      exact ⟨.cons hfront h.1 hback ih.1, List.forall_mem_cons.2 ⟨h.2, ih.2⟩⟩
  · rintro ⟨h, hall⟩
    induction h with
    | last hfront h hback => exact .last hfront ⟨h, by simpa using hall⟩ hback
    | cons hfront h hback _ ih =>
      obtain ⟨ha, has⟩ := List.forall_mem_cons.1 hall
      exact .cons hfront ⟨h, ha⟩ hback (ih has)

/-- What holds of every item may be said of the items as well as of their texts. -/
theorem body_and_iff {as : List α} {ts : List Char} :
    Body (fun a ts => P a ts ∧ Q a) as ts ↔ Body P as ts ∧ ∀ a ∈ as, Q a := by
  constructor
  · rintro (h | h)
    · exact ⟨.empty h, by simp⟩
    · exact ⟨.row (row_and_iff.1 h).1, (row_and_iff.1 h).2⟩
  · rintro ⟨h | h, hall⟩
    · exact .empty h
    · exact .row (row_and_iff.2 ⟨h, hall⟩)

/-- What holds of the values of members may be said apart from their texts. -/
theorem memberText_and_eq :
    MemberText (fun a ts => P a ts ∧ Q a) = fun m ts => MemberText P m ts ∧ Q m.2 := by
  funext m ts
  refine propext ⟨?_, ?_⟩
  · rintro ⟨hname, hgap, hfront, h⟩
    exact ⟨.intro hname hgap hfront h.1, h.2⟩
  · rintro ⟨⟨hname, hgap, hfront, h⟩, ha⟩
    exact .intro hname hgap hfront ⟨h, ha⟩

end Items

section Depth

variable {depth : Nat} {front ts rest cs : List Char} {v : Json}

/-- The texts of a value that is within bounds. -/
def WrittenWithin (depth : Nat) (v : Json) (ts : List Char) : Prop := Written v ts ∧ Within depth v

theorem sound_scalar (h : scalar (skipSpace cs) = .ok (v, rest)) :
    ∃ front ts, Blank front ∧ WrittenWithin depth v ts ∧ front ++ ts ++ rest = cs := by
  obtain ⟨hwithin, ts, hts, happend⟩ := scalarText_of_scalar h
  obtain ⟨front, hfront, happend⟩ := append_of_skipSpace happend.symm
  exact ⟨front, ts, hfront, ⟨.scalar hts, hwithin depth⟩, by rw [List.append_assoc, happend]⟩

/-- Members of values that are within bounds. -/
theorem reads_member_value (h : Reads (value depth) (WrittenWithin depth)) :
    Reads (member (value depth)) fun m ts => MemberText Written m ts ∧ Within depth m.2 := by
  have hmember := reads_member h
  unfold WrittenWithin at hmember
  rwa [memberText_and_eq] at hmember

theorem sound_value (h : Reads (value depth) (WrittenWithin depth))
    (hread : value (depth + 1) cs = .ok (v, rest)) :
    ∃ front ts, Blank front ∧ WrittenWithin (depth + 1) v ts ∧ front ++ ts ++ rest = cs := by
  unfold value at hread
  split at hread
  case h_1 cs hskip =>
    obtain ⟨front, hfront, rfl⟩ := append_of_skipSpace hskip
    obtain ⟨⟨vs, rest⟩, hvs, hv⟩ := map_eq_ok_iff.1 hread
    obtain ⟨rfl, rfl⟩ := Prod.mk.inj hv
    obtain ⟨ts, hts, rfl⟩ := (container_eq_ok_iff h (.inl rfl)).1 hvs
    obtain ⟨hts, hwithin⟩ := body_and_iff.1 hts
    exact ⟨front, _, hfront, ⟨.array hts, hwithin⟩, by simp⟩
  case h_2 cs hskip =>
    obtain ⟨front, hfront, rfl⟩ := append_of_skipSpace hskip
    obtain ⟨⟨ms, rest⟩, hms, hv⟩ := map_eq_ok_iff.1 hread
    obtain ⟨rfl, rfl⟩ := Prod.mk.inj hv
    obtain ⟨ts, hts, rfl⟩ := (container_eq_ok_iff (reads_member_value h) (.inr rfl)).1 hms
    obtain ⟨hts, hwithin⟩ := body_and_iff.1 hts
    exact ⟨front, _, hfront, ⟨.object hts, hwithin⟩, by simp⟩
  case h_3 => exact sound_scalar hread

theorem complete_value (h : Reads (value depth) (WrittenWithin depth)) (hfront : Blank front)
    (hts : WrittenWithin (depth + 1) v ts) (hrest : Ends rest) :
    value (depth + 1) (front ++ ts ++ rest) = .ok (v, rest) := by
  obtain ⟨hts, hwithin⟩ := hts
  cases hts with
  | scalar hts => rw [value_scalar _ hfront hts, scalar_append hts hwithin hrest]
  | array hts =>
    have hread := container_append h (.inl rfl) (body_and_iff.2 ⟨hts, hwithin⟩) rest
    simp [value, skipSpace_append hfront, skipSpace_of_isSpace_eq_false (c := '[') rfl, hread,
      Except.map]
  | object hts =>
    have hread :=
      container_append (reads_member_value h) (.inr rfl) (body_and_iff.2 ⟨hts, hwithin⟩) rest
    simp [value, skipSpace_append hfront, skipSpace_of_isSpace_eq_false (c := '\x7b') rfl, hread,
      Except.map]

end Depth

/-- A value is read from every text that writes it within bounds, and from no other. -/
theorem reads_value (depth : Nat) : Reads (value depth) (WrittenWithin depth) := by
  induction depth with
  | zero =>
    refine ⟨fun h => h.1.opens, fun {cs v rest} hread => ?_, fun hfront hts hrest => ?_⟩
    · unfold value at hread
      split at hread
      case h_1 => cases hread
      case h_2 => cases hread
      case h_3 => exact sound_scalar hread
    · obtain ⟨hts | hts | hts, hwithin⟩ := hts
      · rw [value_scalar 0 hfront hts, scalar_append hts hwithin hrest]
      · cases hwithin
      · cases hwithin
  | succ depth ih => exact ⟨fun h => h.1.opens, sound_value ih, complete_value ih⟩

/-- A text is read as a value if it writes the value, with blank space around it. -/
theorem readChars_eq_ok_iff {cs : List Char} {v : Json} :
    readChars cs = .ok v ↔ Padded Written v cs ∧ Within nestingLimit v := by
  have hreads := reads_value nestingLimit
  unfold readChars
  constructor
  · intro h
    split at h
    case h_1 => cases h
    case h_2 hread =>
      obtain ⟨front, ts, hfront, ⟨hts, hwithin⟩, rfl⟩ := hreads.sound hread
      split at h
      case isFalse => cases h
      case isTrue hempty =>
        obtain rfl := Except.ok.inj h
        obtain ⟨back, hback, rfl⟩ := append_of_skipSpace (List.isEmpty_iff.1 hempty)
        exact ⟨.intro hfront hts (by simpa using hback), hwithin⟩
  · rintro ⟨⟨hfront, hts, hback⟩, hwithin⟩
    have hends : Ends _ := fun c hc => .inl (hback c (List.mem_of_mem_head? hc))
    rw [hreads.complete hfront ⟨hts, hwithin⟩ hends]
    simp [skipSpace_of_blank hback]

end LoadHarness.Json
