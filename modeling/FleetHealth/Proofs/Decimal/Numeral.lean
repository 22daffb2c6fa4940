import FleetHealth.Decimal.Reader
import FleetHealth.Proofs.Text.Blank

/-!
# Proofs — Decimal — Numeral

What a number looks like.  The readers take a text apart from the left and say nothing of what they take; here is the grammar of a written number, and that the readers take just what is in it.

* `Digits` are digits of any script with single underscores between them, and the values they stand for.  `digitRun` finds the longest of them at the front (`digitRun_append`, `digitRun_cut`).
* `readInt_isOk_iff`: a whole number is a sign or none and digits, of which there may not be too many.
* `readFloat_isSome_iff`: a number is a sign or none and then a word or a decimal, with a point and an exponent or without.

Both are about a text without white space around it.
-/

namespace FleetHealth.Decimal

/-- Digits with single underscores between them, and what they stand for. -/
inductive Digits : List Char → List Nat → Prop where
  | last {c : Char} {d : Nat} (h : Text.digit? c = some d) : Digits [c] [d]
  | next {c : Char} {d : Nat} {cs : List Char} {ds : List Nat} (h : Text.digit? c = some d)
      (rest : Digits cs ds) : Digits (c :: cs) (d :: ds)
  | scored {c : Char} {d : Nat} {cs : List Char} {ds : List Nat} (h : Text.digit? c = some d)
      (rest : Digits cs ds) : Digits (c :: '_' :: cs) (d :: ds)

/-- Digits, or nothing. -/
def Run (cs : List Char) (ds : List Nat) : Prop :=
  (cs = [] ∧ ds = []) ∨ Digits cs ds

/-- A sign, or none. -/
def IsSign (cs : List Char) : Prop :=
  cs = [] ∨ cs = ['+'] ∨ cs = ['-']

/-- What a whole number is written as. -/
def IsWhole (cs : List Char) : Prop :=
  ∃ sign digits values, cs = sign ++ digits ∧ IsSign sign ∧ Digits digits values
    ∧ values.length ≤ digitLimit

/-- Nothing, or the mark of an exponent and a whole number. -/
def IsExponent (cs : List Char) : Prop :=
  cs = [] ∨ ∃ mark sign digits values, cs = mark :: (sign ++ digits) ∧ (mark = 'e' ∨ mark = 'E')
    ∧ IsSign sign ∧ Digits digits values

/-- A word for infinity or for what is not a number, in capitals or not. -/
def IsWord (cs : List Char) : Prop :=
  String.ofList (cs.map Char.toLower) ∈ ["nan", "inf", "infinity"]

/-- Digits with a point before, between or after them, or without one, and an exponent. -/
def IsDecimal (cs : List Char) : Prop :=
  ∃ whole point fraction exponent wholes fractions,
    cs = whole ++ point ++ fraction ++ exponent
    ∧ (point = ['.'] ∨ point = [] ∧ fraction = [])
    ∧ Run whole wholes ∧ Run fraction fractions ∧ (wholes ≠ [] ∨ fractions ≠ [])
    ∧ IsExponent exponent

/-- What a number is written as. -/
def IsNumber (cs : List Char) : Prop :=
  ∃ sign rest, cs = sign ++ rest ∧ IsSign sign ∧ (IsWord rest ∨ IsDecimal rest)

/-! ### Runs of digits -/

/-- Text that does not go on with a digit or an underscore. -/
def Stops (cs : List Char) : Prop :=
  ∀ c ∈ cs.head?, Text.digit? c = none ∧ c ≠ '_'

theorem Digits.head {cs : List Char} {ds : List Nat} (h : Digits cs ds) :
    ∃ c rest d, cs = c :: rest ∧ Text.digit? c = some d := by
  cases h with
  | last h => exact ⟨_, _, _, rfl, h⟩
  | next h _ => exact ⟨_, _, _, rfl, h⟩
  | scored h _ => exact ⟨_, _, _, rfl, h⟩

theorem Digits.ne_nil {cs : List Char} {ds : List Nat} (h : Digits cs ds) : ds ≠ [] := by
  cases h <;> exact List.cons_ne_nil _ _

/-- No digits are found in front of what is not one. -/
theorem digitRun_stop {cs : List Char} (h : ∀ c ∈ cs.head?, Text.digit? c = none) :
    digitRun cs = some ([], cs) := by
  fun_cases digitRun cs with
  | case1 => rfl
  | case2 c cs hd => rfl
  | case3 c cs d hd => cases (h c rfl).symm.trans hd
  | case4 c cs d hd => cases (h c rfl).symm.trans hd
  | case5 c cs hscore hd => rfl
  | case6 c cs hscore d hd => cases (h c rfl).symm.trans hd

/-- A digit joins the digits after it. -/
theorem digitRun_next {c : Char} {d : Nat} {cs : List Char} (h : Text.digit? c = some d)
    (hcs : ∀ r, cs ≠ '_' :: r) {ds : List Nat} {tail : List Char}
    (hrun : digitRun cs = some (ds, tail)) : digitRun (c :: cs) = some (d :: ds, tail) := by
  rw [digitRun.eq_3 c cs hcs, h, hrun]
  rfl

/-- So does one with an underscore between. -/
theorem digitRun_scored {c : Char} {d : Nat} {cs : List Char} (h : Text.digit? c = some d)
    {ds : List Nat} {tail : List Char} (hne : ds ≠ []) (hrun : digitRun cs = some (ds, tail)) :
    digitRun (c :: '_' :: cs) = some (d :: ds, tail) := by
  obtain ⟨e, es, rfl⟩ := List.exists_cons_of_ne_nil hne
  rw [digitRun.eq_2, h, hrun]

theorem digit?_underscore : Text.digit? '_' = none := rfl

theorem Digits.not_underscore {cs : List Char} {ds : List Nat} (h : Digits cs ds)
    (rest r : List Char) : cs ++ rest ≠ '_' :: r := by
  obtain ⟨c, cs, d, rfl, hd⟩ := h.head
  rintro heq
  obtain ⟨rfl, -⟩ := List.cons.inj heq
  cases digit?_underscore.symm.trans hd

/-- **Digits are found in front of what is none.** -/
theorem digitRun_append {cs rest : List Char} {ds : List Nat} (h : Digits cs ds)
    (hrest : Stops rest) : digitRun (cs ++ rest) = some (ds, rest) := by
  induction h with
  | last hd =>
      refine digitRun_next hd ?_ (digitRun_stop fun c hc => (hrest c hc).1)
      rintro r rfl
      exact (hrest '_' rfl).2 rfl
  | next hd hs ih => exact digitRun_next hd (hs.not_underscore rest) ih
  | scored hd hs ih => exact digitRun_scored hd hs.ne_nil ih

theorem run_append {cs rest : List Char} {ds : List Nat} (h : Run cs ds) (hrest : Stops rest) :
    digitRun (cs ++ rest) = some (ds, rest) := by
  rcases h with ⟨rfl, rfl⟩ | h
  · exact digitRun_stop fun c hc => (hrest c hc).1
  · exact digitRun_append h hrest

/-- **What is found are digits, in front of the rest.** -/
theorem digitRun_cut {cs tail : List Char} {ds : List Nat} (h : digitRun cs = some (ds, tail)) :
    ∃ run, cs = run ++ tail ∧ Run run ds := by
  fun_induction digitRun cs generalizing ds tail with
  | case1 =>
      cases h
      exact ⟨[], rfl, .inl ⟨rfl, rfl⟩⟩
  | case2 c cs hd =>
      cases h
      exact ⟨[], rfl, .inl ⟨rfl, rfl⟩⟩
  | case3 c cs d hd e es rest hrun ih =>
      cases h
      obtain ⟨run, rfl, hempty | hdigits⟩ := ih hrun
      · cases hempty.2
      · exact ⟨c :: '_' :: run, rfl, .inr (.scored hd hdigits)⟩
  | case4 => cases h
  | case5 c cs hscore hd =>
      cases h
      exact ⟨[], rfl, .inl ⟨rfl, rfl⟩⟩
  | case6 c cs hscore d hd ih =>
      obtain ⟨⟨es, rest⟩, hrun, heq⟩ := Option.map_eq_some_iff.mp h
      cases heq
      obtain ⟨run, rfl, ⟨rfl, rfl⟩ | hdigits⟩ := ih hrun
      · exact ⟨[c], rfl, .inr (.last hd)⟩
      · exact ⟨c :: run, rfl, .inr (.next hd hdigits)⟩

/-! ### Signs and white space -/

/-- Text that does not begin with a sign. -/
def Unsigned (cs : List Char) : Prop :=
  ∀ c ∈ cs.head?, c ≠ '+' ∧ c ≠ '-'

theorem sign_cut (cs : List Char) : ∃ s, cs = s ++ (sign cs).2 ∧ IsSign s := by
  fun_cases sign cs with
  | case1 cs => exact ⟨['-'], rfl, .inr (.inr rfl)⟩
  | case2 cs => exact ⟨['+'], rfl, .inr (.inl rfl)⟩
  | case3 cs => exact ⟨[], rfl, .inl rfl⟩

theorem sign_append {s cs : List Char} (hs : IsSign s) (hcs : Unsigned cs) :
    (sign (s ++ cs)).2 = cs := by
  rcases hs with rfl | rfl | rfl
  · rw [List.nil_append]
    fun_cases sign cs with
    | case1 cs => exact absurd rfl (hcs '-' rfl).2
    | case2 cs => exact absurd rfl (hcs '+' rfl).1
    | case3 cs => rfl
  · rfl
  · rfl

theorem Digits.unsigned {cs : List Char} {ds : List Nat} (h : Digits cs ds) : Unsigned cs := by
  obtain ⟨c, cs, d, rfl, hd⟩ := h.head
  rintro _ hc
  obtain rfl := Option.some.inj hc
  refine ⟨?_, ?_⟩
  · rintro rfl
    cases hd
  · rintro rfl
    cases hd

/-- Digits that are found to the end, after a sign or none. -/
theorem signed_iff {cs : List Char} {admits : List Nat → Prop} :
    (∃ ds, digitRun (sign cs).2 = some (ds, []) ∧ ds ≠ [] ∧ admits ds)
      ↔ ∃ sgn digits ds, cs = sgn ++ digits ∧ IsSign sgn ∧ Digits digits ds ∧ admits ds := by
  constructor
  · rintro ⟨ds, hrun, hne, hadmits⟩
    obtain ⟨sgn, hcut, hsgn⟩ := sign_cut cs
    obtain ⟨run, hrest, hempty | hdigits⟩ := digitRun_cut hrun
    · exact absurd hempty.2 hne
    · rw [List.append_nil] at hrest
      exact ⟨sgn, run, ds, hrest ▸ hcut, hsgn, hdigits, hadmits⟩
  · rintro ⟨sgn, digits, ds, rfl, hsgn, hdigits, hadmits⟩
    have hrun := digitRun_append hdigits (show Stops [] from nofun)
    rw [List.append_nil] at hrun
    rw [sign_append hsgn hdigits.unsigned]
    exact ⟨ds, hrun, hdigits.ne_nil, hadmits⟩

/-- A text without white space at either end has none around a number. -/
theorem body_of_isTrimmed {s : String} (h : Text.IsTrimmed s) : body s = s.toList := by
  have hnone : ∀ c, Text.isBlank c = false → Text.isNumberBlank c = false := by
    intro c hc
    rw [Text.isNumberBlank, hc, Bool.false_and]
  exact Text.trimChars_eq_self (fun c hc => hnone c (h.front c hc))
    fun c hc => hnone c (h.back c hc)

/-- **What is read as a whole number.** -/
theorem readInt_isOk_iff {s : String} (h : Text.IsTrimmed s) :
    (readInt s).isOk = true ↔ IsWhole s.toList := by
  refine Iff.trans ?_ signed_iff
  rw [readInt, body_of_isTrimmed h]
  dsimp only
  cases digitRun (sign s.toList).2 with
  | none => exact ⟨nofun, nofun⟩
  | some r =>
      obtain ⟨ds, tail⟩ := r
      simp only [Option.some.injEq, Prod.mk.injEq]
      constructor
      · intro hok
        split at hok
        · cases hok
        · split at hok
          · cases hok
          · next hlimit hwhole =>
              simp only [Bool.or_eq_true, List.isEmpty_iff, Bool.not_eq_true',
                not_or, Bool.not_eq_false] at hwhole
              exact ⟨ds, ⟨rfl, hwhole.2⟩, hwhole.1, Nat.le_of_not_lt hlimit⟩
      · rintro ⟨_, ⟨rfl, rfl⟩, hne, hlimit⟩
        rw [if_neg (Nat.not_lt.mpr hlimit), if_neg (by simpa using hne)]
        cases (sign s.toList).1 <;> rfl

/-! ### Decimals -/

/-- The digits after a point, where there is one. -/
def fractionRun : List Char → Option (List Nat × List Char)
  | '.' :: cs => digitRun cs
  | cs        => some ([], cs)

/-- **What is read as an exponent.** -/
theorem exponentTail_isSome_iff {cs : List Char} :
    (exponentTail cs).isSome = true ↔ IsExponent cs := by
  cases cs with
  | nil => exact ⟨fun _ => .inl rfl, fun _ => rfl⟩
  | cons c cs =>
      have hdigits : (exponentTail (c :: cs)).isSome = true ↔ (c = 'e' ∨ c = 'E')
          ∧ ∃ ds, digitRun (sign cs).2 = some (ds, []) ∧ ds ≠ [] ∧ True := by
        rw [exponentTail]
        split
        · next hc =>
            rw [Bool.or_eq_true, decide_eq_true_eq, decide_eq_true_eq] at hc
            dsimp only
            split
            · next d ds hrun =>
                exact ⟨fun _ => ⟨hc, _, hrun, List.cons_ne_nil d ds, trivial⟩, fun _ => rfl⟩
            · next hnone =>
                refine ⟨nofun, fun ⟨_, ds, hrun, hne, _⟩ => ?_⟩
                obtain ⟨d, ds, rfl⟩ := List.exists_cons_of_ne_nil hne
                exact absurd hrun (hnone d ds)
        · next hc =>
            rw [Bool.or_eq_true, decide_eq_true_eq, decide_eq_true_eq] at hc
            exact ⟨nofun, fun h => absurd h.1 hc⟩
      rw [hdigits, signed_iff]
      constructor
      · rintro ⟨hc, sgn, digits, ds, rfl, hsgn, hds, -⟩
        exact .inr ⟨c, sgn, digits, ds, rfl, hc, hsgn, hds⟩
      · rintro (⟨⟨⟩⟩ | ⟨mark, sgn, digits, ds, heq, hmark, hsgn, hds⟩)
        obtain ⟨rfl, rfl⟩ := List.cons.inj heq
        exact ⟨hmark, sgn, digits, ds, rfl, hsgn, hds, trivial⟩

theorem IsExponent.stops {cs : List Char} (h : IsExponent cs) :
    Stops cs ∧ ∀ r, cs ≠ '.' :: r := by
  rcases h with rfl | ⟨mark, sgn, ds, values, rfl, rfl | rfl, -, -⟩
  · exact ⟨nofun, nofun⟩
  · refine ⟨?_, by rintro r ⟨⟩⟩
    rintro _ ⟨⟩
    exact ⟨rfl, by decide⟩
  · refine ⟨?_, by rintro r ⟨⟩⟩
    rintro _ ⟨⟩
    exact ⟨rfl, by decide⟩

/-- The number that a decimal writes. -/
def decimal? (negative : Bool) (cs : List Char) : Option Binary64 := do
  let (whole, afterWhole) ← digitRun cs
  let (fraction, afterFraction) ← fractionRun afterWhole
  if whole.isEmpty && fraction.isEmpty then none
  else
    let e ← exponentTail afterFraction
    some (.ofDecimal negative (ofDigits (whole ++ fraction)) (e - fraction.length))

/-- A number is a word or a decimal. -/
theorem readFloat_eq (s : String) : readFloat s =
    (word? (sign (body s)).1 (sign (body s)).2).or
      (decimal? (sign (body s)).1 (sign (body s)).2) := by
  rw [readFloat]
  dsimp only
  cases word? (sign (body s)).1 (sign (body s)).2 with
  | some x => rfl
  | none =>
      rw [Option.none_or, decimal?]
      cases digitRun (sign (body s)).2 with
      | none => rfl
      | some r =>
          obtain ⟨whole, afterWhole⟩ := r
          dsimp only [bind, Option.bind]
          fun_cases fractionRun afterWhole with
          | case1 cs => rfl
          | case2 cs hpoint =>
              split
              · next rest => exact absurd rfl (hpoint rest)
              · rfl

/-- The parts that are found of a decimal. -/
structure Parts (cs : List Char) (wholes fractions : List Nat) (rest : List Char) : Prop where
  whole : ∃ afterWhole, digitRun cs = some (wholes, afterWhole)
    ∧ fractionRun afterWhole = some (fractions, rest)
  some : wholes ≠ [] ∨ fractions ≠ []
  exponent : (exponentTail rest).isSome = true

theorem Run.nil {ds : List Nat} (h : Run [] ds) : ds = [] :=
  h.elim And.right nofun

theorem stops_point (cs : List Char) : Stops ('.' :: cs) := by
  rintro _ ⟨⟩
  exact ⟨rfl, by decide⟩

/-- **The parts of a decimal are found.** -/
theorem parts_iff {cs : List Char} :
    (∃ wholes fractions rest, Parts cs wholes fractions rest) ↔ IsDecimal cs := by
  constructor
  · rintro ⟨wholes, fractions, rest, ⟨afterWhole, hwhole, hfraction⟩, hsome, hexponent⟩
    obtain ⟨whole, rfl, hw⟩ := digitRun_cut hwhole
    rw [exponentTail_isSome_iff] at hexponent
    fun_cases fractionRun afterWhole with
    | case1 afterPoint =>
        obtain ⟨fraction, rfl, hf⟩ := digitRun_cut hfraction
        refine ⟨whole, ['.'], fraction, rest, wholes, fractions, ?_, .inl rfl, hw, hf, hsome,
          hexponent⟩
        simp only [List.append_assoc, List.cons_append, List.nil_append]
    | case2 cs hpoint =>
        rw [fractionRun.eq_2 afterWhole hpoint] at hfraction
        cases hfraction
        refine ⟨whole, [], [], _, wholes, [], ?_, .inr ⟨rfl, rfl⟩, hw, .inl ⟨rfl, rfl⟩, hsome,
          hexponent⟩
        simp only [List.append_nil]
  · rintro ⟨whole, point, fraction, rest, wholes, fractions, rfl, hpoint, hw, hf, hsome, hexponent⟩
    obtain ⟨hstops, hnopoint⟩ := hexponent.stops
    refine ⟨wholes, fractions, rest, ?_, hsome, exponentTail_isSome_iff.mpr hexponent⟩
    rcases hpoint with rfl | ⟨rfl, rfl⟩
    · refine ⟨'.' :: (fraction ++ rest), ?_, run_append hf hstops⟩
      rw [List.append_assoc, List.append_assoc]
      exact run_append hw (stops_point _)
    · obtain rfl := hf.nil
      rw [List.append_nil, List.append_nil]
      exact ⟨rest, run_append hw hstops, fractionRun.eq_2 rest hnopoint⟩

/-- **What is read as a decimal.** -/
theorem decimal?_isSome_iff {negative : Bool} {cs : List Char} :
    (decimal? negative cs).isSome = true ↔ IsDecimal cs := by
  rw [← parts_iff, decimal?]
  constructor
  · intro h
    obtain ⟨x, hx⟩ := Option.isSome_iff_exists.mp h
    obtain ⟨⟨wholes, afterWhole⟩, hwhole, hx⟩ := Option.bind_eq_some_iff.mp hx
    obtain ⟨⟨fractions, rest⟩, hfraction, hx⟩ := Option.bind_eq_some_iff.mp hx
    dsimp only at hx
    split at hx
    · cases hx
    · next hsome =>
        obtain ⟨e, he, -⟩ := Option.bind_eq_some_iff.mp hx
        rw [Bool.and_eq_true, List.isEmpty_iff, List.isEmpty_iff, Decidable.not_and_iff_not_or_not]
          at hsome
        exact ⟨wholes, fractions, rest, ⟨afterWhole, hwhole, hfraction⟩, hsome,
          Option.isSome_iff_exists.mpr ⟨e, he⟩⟩
  · rintro ⟨wholes, fractions, rest, ⟨afterWhole, hwhole, hfraction⟩, hsome, hexponent⟩
    obtain ⟨e, he⟩ := Option.isSome_iff_exists.mp hexponent
    rw [← Decidable.not_and_iff_not_or_not, ← List.isEmpty_iff, ← List.isEmpty_iff,
      ← Bool.and_eq_true] at hsome
    rw [hwhole]
    dsimp only [bind, Option.bind]
    rw [hfraction]
    dsimp only
    rw [if_neg hsome, he]
    rfl

/-! ### Words -/

theorem toLower_of_ascii : ∀ n < 0x80, Text.lowerChar (Char.ofNat n) = (Char.ofNat n).toLower := by
  decide

/-- Lower case in ASCII. -/
theorem lowerAscii_eq (c : Char) :
    (if c.toNat < 0x80 then Text.lowerChar c else c) = c.toLower := by
  split
  · next hc =>
      have hlower := toLower_of_ascii c.toNat hc
      rwa [Char.ofNat_toNat] at hlower
  · next hc =>
      have hcapital : ¬ (c.val ≥ 'A'.val ∧ c.val ≤ 'Z'.val) := by
        rintro ⟨-, hz⟩
        exact hc (Nat.lt_of_le_of_lt (UInt32.le_iff_toNat_le.mp hz) (by decide))
      have hsame : c.toLower = c := dif_neg hcapital
      exact hsame.symm

/-- **What is read as a word.** -/
theorem word?_isSome_iff {negative : Bool} {cs : List Char} :
    (word? negative cs).isSome = true ↔ IsWord cs := by
  rw [word?, IsWord]
  simp only [lowerAscii_eq, List.mem_cons, List.not_mem_nil, or_false]
  split
  · next hnan => exact ⟨fun _ => .inl hnan, fun _ => rfl⟩
  · next hnan =>
      split
      · next hinf =>
          rw [Bool.or_eq_true, decide_eq_true_eq, decide_eq_true_eq] at hinf
          exact ⟨fun _ => .inr hinf, fun _ => rfl⟩
      · next hinf =>
          rw [Bool.or_eq_true, decide_eq_true_eq, decide_eq_true_eq] at hinf
          exact ⟨nofun, fun h => (h.elim hnan hinf).elim⟩

/-! ### Numbers -/

theorem IsWord.unsigned {cs : List Char} (h : IsWord cs) : Unsigned cs := by
  cases cs with
  | nil => exact nofun
  | cons c cs =>
      rintro _ ⟨⟩
      have hfirst : c.toLower = 'n' ∨ c.toLower = 'i' := by
        simp only [IsWord, List.map_cons, List.mem_cons, List.not_mem_nil, or_false,
          ← String.toList_inj, String.toList_ofList] at h
        rcases h with h | h | h
        · exact .inl (List.cons.inj h).1
        · exact .inr (List.cons.inj h).1
        · exact .inr (List.cons.inj h).1
      refine ⟨?_, ?_⟩ <;> (rintro rfl; revert hfirst; decide)

theorem IsDecimal.unsigned {cs : List Char} (h : IsDecimal cs) : Unsigned cs := by
  obtain ⟨whole, point, fraction, rest, wholes, fractions, rfl, hpoint, hw, hf, hsome, -⟩ := h
  rcases hw with ⟨rfl, rfl⟩ | hw
  · -- without digits before it there is a point
    rcases hpoint with rfl | ⟨rfl, rfl⟩
    · rintro _ ⟨⟩
      decide
    · obtain rfl := hf.nil
      simp at hsome
  · obtain ⟨c, cs, d, rfl, -⟩ := hw.head
    exact hw.unsigned

/-- **What is read as a number.** -/
theorem readFloat_isSome_iff {s : String} (h : Text.IsTrimmed s) :
    (readFloat s).isSome = true ↔ IsNumber s.toList := by
  rw [readFloat_eq, body_of_isTrimmed h, Option.isSome_or, Bool.or_eq_true, word?_isSome_iff,
    decimal?_isSome_iff]
  constructor
  · intro hrest
    obtain ⟨sgn, hcut, hsgn⟩ := sign_cut s.toList
    exact ⟨sgn, _, hcut, hsgn, hrest⟩
  · rintro ⟨sgn, rest, hs, hsgn, hrest⟩
    rwa [hs, sign_append hsgn (hrest.elim IsWord.unsigned IsDecimal.unsigned)]

end FleetHealth.Decimal
