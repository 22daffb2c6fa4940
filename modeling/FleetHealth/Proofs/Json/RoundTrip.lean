import FleetHealth.Json.Reader
import FleetHealth.Json.Writer
import FleetHealth.Proofs.Json.Value
import Mathlib.Data.List.Forall2
import Mathlib.Data.List.TakeWhile

/-!
# Proofs — Json — RoundTrip

What was written reads back.  A character is written by its code units and read back as its code point (`ofUnits_unitsOf`), so a text reads back as its code points.  A whole number reads back from its digits, as long as there are no more of them than can be read.  A record whose fields read back does so itself (`read_record`), and a flat one of texts and whole numbers always, when it has a text at all (`read_rendered`); there need only be room for one container.
-/

namespace FleetHealth.Json

/-! ### Strings -/

theorem hexDigit?_hexDigit {d : Nat} (h : d < 16) : Text.hexDigit? (Text.hexDigit d) = some d := by
  have hall : ∀ d < 16, Text.hexDigit? (Text.hexDigit d) = some d := by decide
  exact hall d h

/-- Four hexadecimal digits hold a code unit. -/
theorem hex4?_hexChars {n : Nat} (h : n < 0x10000) :
    ∃ a b c d, Text.hexChars 4 n = [a, b, c, d] ∧ hex4? a b c d = some n := by
  refine ⟨_, _, _, _, rfl, ?_⟩
  have hdigit := fun k => hexDigit?_hexDigit (Nat.mod_lt k (by decide : 0 < 16))
  unfold hex4?
  rw [hdigit, hdigit, hdigit, hdigit]
  refine congrArg some ?_
  omega

/-- The code units of a character: one, or the two of a surrogate pair. -/
def unitsOf (c : Char) : List Nat :=
  let n := c.toNat
  if n < 0x10000 then [n]
  else [0xD800 + (n - 0x10000) / 0x400, 0xDC00 + (n - 0x10000) % 0x400]

/-- The code units before those of the rest. -/
def before (ns : List Nat) (r : Read (List Nat)) : Read (List Nat) :=
  r.map fun (ms, tail) => (ns ++ ms, tail)

theorem before_append (ms ns : List Nat) (r : Read (List Nat)) :
    before ms (before ns r) = before (ms ++ ns) r := by
  cases r with
  | error e => rfl
  | ok p => exact congrArg (fun ks => Except.ok (ks, p.2)) (List.append_assoc ms ns p.1).symm

theorem stringUnits_escapeUnit {n : Nat} (h : n < 0x10000) (cs : List Char) :
    stringUnits (Text.escapeUnit n ++ cs) = before [n] (stringUnits cs) := by
  obtain ⟨a, b, c, d, hchars, hhex⟩ := hex4?_hexChars h
  rw [Text.escapeUnit, hchars]
  show stringUnits ('\\' :: 'u' :: a :: b :: c :: d :: cs) = _
  rw [stringUnits, hhex]
  rfl

/-- A character that stands for itself. -/
theorem stringUnits_plain {c : Char} (hquote : c ≠ '"') (hslash : c ≠ '\\') (hc : 0x20 ≤ c.toNat)
    (cs : List Char) : stringUnits (c :: cs) = before [c.toNat] (stringUnits cs) := by
  rw [stringUnits, decide_eq_false (by omega), decide_eq_false hslash]
  · rfl
  · exact hquote
  · exact fun _ _ _ _ _ h _ => hslash h
  · exact fun _ _ h _ => hslash h

theorem unitsOf_of_lt {c : Char} (h : c.toNat < 0x10000) : unitsOf c = [c.toNat] := if_pos h

/-- A character beyond the basic plane is written as a surrogate pair. -/
theorem stringUnits_wide {c : Char} (h : ¬ c.toNat < 0x10000) (cs : List Char) :
    stringUnits ((Text.escapeUnit (0xD800 + (c.toNat - 0x10000) / 0x400)
      ++ Text.escapeUnit (0xDC00 + (c.toNat - 0x10000) % 0x400)) ++ cs) =
      before (unitsOf c) (stringUnits cs) := by
  have hscalar := toNat_scalar c
  have hunits : unitsOf c =
      [0xD800 + (c.toNat - 0x10000) / 0x400, 0xDC00 + (c.toNat - 0x10000) % 0x400] := if_neg h
  rw [hunits, List.append_assoc, stringUnits_escapeUnit (by omega),
    stringUnits_escapeUnit (by omega), before_append]
  rfl

/-- **A character reads back as its code units.**  The cases are those of `escapeChar`. -/
theorem stringUnits_escapeChar (c : Char) (cs : List Char) :
    stringUnits (escapeChar c ++ cs) = before (unitsOf c) (stringUnits cs) := by
  unfold escapeChar
  dsimp only
  split
  case isTrue h =>
    rcases Bool.or_eq_true_iff.mp h with h | h <;> obtain rfl := of_decide_eq_true h <;> rfl
  split
  case isTrue h =>
    subst h
    rfl
  split
  case isTrue h =>
    subst h
    rfl
  split
  case isTrue h =>
    subst h
    rfl
  case isFalse hspecial _ _ _ =>
    have hspecial : c ≠ '"' ∧ c ≠ '\\' := by simpa using hspecial
    split
    case isTrue h =>
      rw [unitsOf_of_lt (by omega), h]
      rfl
    split
    case isTrue h =>
      rw [unitsOf_of_lt (by omega), h]
      rfl
    split
    case isTrue h =>
      have h : 0x20 ≤ c.toNat ∧ c.toNat ≤ 0x7E := by simpa using h
      rw [unitsOf_of_lt (by omega)]
      exact stringUnits_plain hspecial.1 hspecial.2 h.1 cs
    split
    case isTrue h =>
      rw [unitsOf_of_lt h]
      exact stringUnits_escapeUnit h cs
    case isFalse h => exact stringUnits_wide h cs

/-- **A string reads back as its code units.** -/
theorem stringUnits_written (cs tail : List Char) :
    stringUnits (cs.flatMap escapeChar ++ '"' :: tail) = .ok (cs.flatMap unitsOf, tail) := by
  induction cs with
  | nil => rfl
  | cons c cs ih =>
      rw [List.flatMap_cons, List.append_assoc, stringUnits_escapeChar, ih]
      rfl

/-! ### Characters -/

/-- A code unit that opens no surrogate pair is a code point of its own. -/
theorem ofUnits_cons {m : Nat} (h : isHigh m = false) (ns : List Nat) :
    ofUnits (m :: ns) = m :: ofUnits ns := by
  cases ns with
  | nil => rfl
  | cons n ns =>
      rw [ofUnits, h]
      rfl

theorem isHigh_eq_true {n : Nat} : isHigh n = true ↔ 0xD800 ≤ n ∧ n ≤ 0xDBFF := by
  unfold isHigh
  rw [Bool.and_eq_true_iff, decide_eq_true_eq, decide_eq_true_eq]

theorem isLow_eq_true {n : Nat} : isLow n = true ↔ 0xDC00 ≤ n ∧ n ≤ 0xDFFF := by
  unfold isLow
  rw [Bool.and_eq_true_iff, decide_eq_true_eq, decide_eq_true_eq]

/-- **A character is joined again from its code units.** -/
theorem ofUnits_unitsOf (c : Char) (ns : List Nat) :
    ofUnits (unitsOf c ++ ns) = c.toNat :: ofUnits ns := by
  have hscalar := toNat_scalar c
  by_cases h : c.toNat < 0x10000
  · have hhigh : isHigh c.toNat = false := by
      rw [Bool.eq_false_iff, ne_eq, isHigh_eq_true]
      omega
    rw [unitsOf_of_lt h]
    exact ofUnits_cons hhigh ns
  · have hunits : unitsOf c =
        [0xD800 + (c.toNat - 0x10000) / 0x400, 0xDC00 + (c.toNat - 0x10000) % 0x400] := if_neg h
    have hjoin : 0x10000 + (0xD800 + (c.toNat - 0x10000) / 0x400 - 0xD800) * 0x400
        + (0xDC00 + (c.toNat - 0x10000) % 0x400 - 0xDC00) = c.toNat := by omega
    rw [hunits]
    show ofUnits (_ :: _ :: ns) = _
    rw [ofUnits, isHigh_eq_true.mpr (by omega), isLow_eq_true.mpr (by omega), hjoin]
    rfl

/-- **A text is joined again from its code units.** -/
theorem ofUnits_written (s : String) : ofUnits (s.toList.flatMap unitsOf) = Text.codes s := by
  unfold Text.codes
  induction s.toList with
  | nil => rfl
  | cons c cs ih => rw [List.flatMap_cons, ofUnits_unitsOf, ih, List.map_cons]

theorem toList_writeString (s : String) (tail : List Char) :
    (writeString s).toList ++ tail = '"' :: (s.toList.flatMap escapeChar ++ '"' :: tail) := by
  rw [writeString, String.toList_ofList, List.cons_append, List.append_assoc]
  rfl

theorem string_written (s : String) (tail : List Char) :
    string (s.toList.flatMap escapeChar ++ '"' :: tail) = .ok (Text.codes s, tail) := by
  unfold string
  rw [stringUnits_written, ← ofUnits_written]
  rfl

/-! ### Whole numbers -/

/-- What stands after a value: nothing, a comma, or what closes a list or a record. -/
inductive Follows : List Char → Prop
  | nil : Follows []
  | comma (cs : List Char) : Follows (',' :: cs)
  | bracket (cs : List Char) : Follows (']' :: cs)
  | brace (cs : List Char) : Follows ('\x7d' :: cs)

/-- A whole number is written without zeros before it. -/
theorem toDigits_of_zero {n : Nat} {ds : List Char} (h : Nat.toDigits 10 n = '0' :: ds) :
    ds = [] := by
  induction n using Nat.strongRecOn generalizing ds with
  | ind n ih =>
      by_cases hn : n < 10
      · rw [Nat.toDigits_of_lt_base hn] at h
        exact (List.cons.inj h).2.symm
      · rw [Nat.toDigits_of_base_le (by decide) (Nat.le_of_not_lt hn)] at h
        -- the digits before the last one begin with the zero as well
        cases hinit : Nat.toDigits 10 (n / 10) with
        | nil => exact absurd hinit Nat.toDigits_ne_nil
        | cons c cs =>
            rw [hinit] at h
            obtain rfl := (List.cons.inj h).1
            obtain rfl := ih (n / 10) (by omega) hinit
            have hzero := Nat.ofDigitChars_toDigits (b := 10) (n := n / 10) (by decide) (by decide)
            rw [hinit] at hzero
            have hzero : 0 = n / 10 := hzero
            omega

theorem digits_toDigits (n : Nat) {tail : List Char} (h : Follows tail) :
    digits (Nat.toDigits 10 n ++ tail) = ((Nat.toDigits 10 n).map (·.toNat - 0x30), tail) := by
  have hdigits : ∀ c ∈ Nat.toDigits 10 n, ('0' ≤ c && c ≤ '9') = true := fun c hc =>
    Nat.isDigit_of_mem_toDigits (by decide) (by decide) hc
  have hstop : tail.takeWhile (fun c => '0' ≤ c && c ≤ '9') = []
      ∧ tail.dropWhile (fun c => '0' ≤ c && c ≤ '9') = tail := by
    cases h <;> exact ⟨rfl, rfl⟩
  unfold digits
  dsimp only
  rw [List.takeWhile_append_of_pos hdigits, List.dropWhile_append_of_pos hdigits, hstop.1, hstop.2,
    List.append_nil]

theorem ofDigits_toDigits (n : Nat) :
    Decimal.ofDigits ((Nat.toDigits 10 n).map (·.toNat - 0x30)) = n := by
  have h := Nat.ofDigitChars_toDigits (b := 10) (n := n) (by decide) (by decide)
  rw [Nat.ofDigitChars_eq_foldl] at h
  rw [Decimal.ofDigits, List.foldl_map]
  refine Eq.trans ?_ h
  congr
  funext m c
  rw [Nat.mul_comm]
  rfl

/-- **A whole number reads back from its digits.** -/
theorem number_toDigits (negative : Bool) {n : Nat}
    (hn : (Nat.toDigits 10 n).length ≤ Decimal.digitLimit) {tail : List Char} (h : Follows tail) :
    number negative (Nat.toDigits 10 n ++ tail) =
      .ok (.int (if negative then -n else n), tail) := by
  have hfraction : fraction tail = ([], tail) := by cases h <;> rfl
  have hexponent : exponent tail = (none, tail) := by cases h <;> rfl
  have hne : ((Nat.toDigits 10 n).map (·.toNat - 0x30)).isEmpty = false := by
    rw [List.isEmpty_eq_false_iff]
    exact fun hnil => Nat.toDigits_ne_nil (List.map_eq_nil_iff.mp hnil)
  have hlen : ¬ Decimal.digitLimit < ((Nat.toDigits 10 n).map (·.toNat - 0x30)).length := by
    rw [List.length_map]
    omega
  unfold number
  split
  next whole after hwhole =>
    have hwhole : whole = (Nat.toDigits 10 n).map (·.toNat - 0x30) ∧ after = tail := by
      split at hwhole
      next hzero =>
        -- a zero stands alone
        cases hds : Nat.toDigits 10 n with
        | nil => exact absurd hds Nat.toDigits_ne_nil
        | cons c ds =>
            rw [hds] at hzero
            obtain ⟨rfl, hrest⟩ := List.cons.inj hzero
            obtain rfl := toDigits_of_zero hds
            obtain ⟨rfl, rfl⟩ := Prod.mk.inj hwhole
            exact ⟨rfl, hrest.symm⟩
      next =>
        rw [digits_toDigits n h] at hwhole
        obtain ⟨rfl, rfl⟩ := Prod.mk.inj hwhole
        exact ⟨rfl, rfl⟩
    obtain ⟨rfl, rfl⟩ := hwhole
    rw [hne, hfraction]
    dsimp only
    rw [hexponent]
    dsimp only
    rw [if_neg hlen, ofDigits_toDigits]
    rfl


/-! ### Values -/

variable {other : Datum → String}

/-- A value has a text that reads back as a value in one step, whatever follows it. -/
structure Legible (other : Datum → String) (d : Datum) (v : Value) : Prop where
  opens : ∀ tail, skip ((write other d).toList ++ tail) = (write other d).toList ++ tail
  reads : ∀ fuel room tail, Follows tail →
    value (fuel + 1) room ((write other d).toList ++ tail) = .ok (v, tail)

theorem legible_text (s : String) : Legible other (.text s) (.text (Text.codes s)) := by
  constructor
  · intro tail
    show skip ((writeString s).toList ++ tail) = (writeString s).toList ++ tail
    rw [toList_writeString]
    rfl
  · intro fuel room tail _
    show value _ _ ((writeString s).toList ++ tail) = _
    rw [toList_writeString]
    show (string (s.toList.flatMap escapeChar ++ '"' :: tail)).map _ = _
    rw [string_written]
    rfl

/-- The words that stand for values have no digits. -/
theorem words_spelled {w : List Char × Value} (hw : w ∈ words) :
    2 ≤ w.1.length ∧ ∀ c ∈ w.1, c.isDigit = false := by
  have hall : words.all (fun w => 2 ≤ w.1.length && w.1.all (!·.isDigit)) = true := by decide
  simpa using List.all_eq_true.mp hall w hw

/-- A text with a digit in the first two places begins with no word. -/
theorem word?_eq_none {c : Char} {cs : List Char} (hc : c ∈ cs.take 2) (h : c.isDigit = true) :
    word? cs = none := by
  have hnone : words.find? (fun w => w.1.isPrefixOf cs) = none := by
    refine List.find?_eq_none.mpr fun w hw hprefix => ?_
    obtain ⟨hlen, hspelled⟩ := words_spelled hw
    obtain ⟨rest, rfl⟩ := List.isPrefixOf_iff_prefix.mp hprefix
    rw [List.take_append_of_le_length hlen] at hc
    exact absurd h (Bool.eq_false_iff.mp (hspelled c (List.mem_of_mem_take hc)))
  rw [word?, hnone]
  rfl

theorem value_digit {c : Char} (h : c.isDigit = true) (cs : List Char) (fuel room : Nat) :
    value (fuel + 1) room (c :: cs) = number false (c :: cs) := by
  have hhead : ∀ x rest, c :: cs = x :: rest → x.isDigit = true := by
    rintro x rest heq
    obtain rfl := (List.cons.inj heq).1
    exact h
  rw [value, word?_eq_none List.mem_cons_self h]
  all_goals
    intro rest heq
    cases hhead _ _ heq

theorem value_minus {c : Char} (h : c.isDigit = true) (cs : List Char) (fuel room : Nat) :
    value (fuel + 1) room ('-' :: c :: cs) = number true (c :: cs) := by
  rw [value, word?_eq_none (List.mem_cons_of_mem _ List.mem_cons_self) h]

theorem toList_toString (u : Int) : (toString u).toList =
    if 0 ≤ u then Nat.toDigits 10 u.natAbs else '-' :: Nat.toDigits 10 u.natAbs := by
  rw [Int.toString_eq_repr, Int.repr_eq_if]
  split
  · rw [Nat.toList_repr, (by omega : u.toNat = u.natAbs)]
  · rw [String.toList_append, Nat.toList_repr, (by omega : (-u).toNat = u.natAbs)]
    rfl

theorem exists_toDigits (n : Nat) : ∃ c cs, Nat.toDigits 10 n = c :: cs ∧ c.isDigit = true := by
  cases hn : Nat.toDigits 10 n with
  | nil => exact absurd hn Nat.toDigits_ne_nil
  | cons c cs =>
      refine ⟨c, cs, rfl, Nat.isDigit_of_mem_toDigits (b := 10) (n := n) (by decide) (by decide) ?_⟩
      rw [hn]
      exact List.mem_cons_self

theorem skip_of_ne {c : Char} (h : isSpace c = false) (cs : List Char) : skip (c :: cs) = c :: cs :=
  List.dropWhile_cons_of_neg (Bool.eq_false_iff.mp h)

theorem isSpace_digit {c : Char} (h : c.isDigit = true) : isSpace c = false := by
  refine Bool.eq_false_iff.mpr fun hspace => ?_
  have hspace : ((c = ' ' ∨ c = '\t') ∨ c = '\n') ∨ c = '\r' := by simpa [isSpace] using hspace
  rcases hspace with ((rfl | rfl) | rfl) | rfl <;> cases h

theorem legible_int {u : Int} (h : (Nat.toDigits 10 u.natAbs).length ≤ Decimal.digitLimit) :
    Legible other (.int u) (.int u) := by
  obtain ⟨c, cs, hdigits, hc⟩ := exists_toDigits u.natAbs
  have hread : ∀ negative tail, Follows tail → number negative (c :: cs ++ tail) =
      .ok (.int (if negative then -u.natAbs else u.natAbs), tail) := fun negative tail hf =>
    hdigits ▸ number_toDigits negative h hf
  have hwrite : (write other (.int u)).toList = if 0 ≤ u then c :: cs else '-' :: c :: cs := by
    rw [← hdigits]
    exact toList_toString u
  rcases Int.lt_or_le u 0 with hneg | hnonneg
  · rw [if_neg (by omega)] at hwrite
    constructor
    · intro tail
      rw [hwrite]
      rfl
    · intro fuel room tail hf
      rw [hwrite]
      refine (value_minus hc _ _ _).trans ((hread true tail hf).trans ?_)
      rw [if_pos rfl, (by omega : -(u.natAbs : Int) = u)]
  · rw [if_pos hnonneg] at hwrite
    constructor
    · intro tail
      rw [hwrite]
      exact skip_of_ne (isSpace_digit hc) _
    · intro fuel room tail hf
      rw [hwrite]
      refine (value_digit hc _ _ _).trans ((hread false tail hf).trans ?_)
      rw [if_neg Bool.false_ne_true, (by omega : (u.natAbs : Int) = u)]

/-! ### Records -/

/-- A field has a text that reads back as a field. -/
def FieldLegible (other : Datum → String) (f : String × Datum) (g : List Nat × Value) : Prop :=
  g.1 = Text.codes f.1 ∧ Legible other f.2 g.2

/-- The text of one field. -/
def fieldText (other : Datum → String) (f : String × Datum) : List Char :=
  (writeString f.1 ++ ": " ++ write other f.2).toList

theorem fieldText_append (f : String × Datum) (tail : List Char) :
    fieldText other f ++ tail =
      '"' :: (f.1.toList.flatMap escapeChar ++
        '"' :: ':' :: ' ' :: ((write other f.2).toList ++ tail)) := by
  rw [fieldText, String.toList_append, String.toList_append, List.append_assoc, List.append_assoc,
    toList_writeString]
  rfl

/-- The fields of a record once one of them is read. -/
def afterField (fuel room : Nat) (f : List Nat × Value) (rest : List Char) :
    Read (List (List Nat × Value)) :=
  match skip rest with
  | ',' :: tail    => (fields fuel room (skip tail)).map fun (fs, after) => (f :: fs, after)
  | '\x7d' :: tail => .ok ([f], tail)
  | _              => .error .malformed

/-- A record is read field by field. -/
theorem fields_name (k : String) (fuel room : Nat) (cs : List Char) :
    fields (fuel + 1) room ('"' :: (k.toList.flatMap escapeChar ++ '"' :: ':' :: ' ' :: cs)) =
      (value fuel room (skip cs)).bind fun p => afterField fuel room (Text.codes k, p.1) p.2 := by
  rw [fields, string_written]
  dsimp only
  rw [skip_of_ne rfl]
  split
  next after hcolon =>
    obtain rfl := (List.cons.inj hcolon).2
    have hskip : skip (' ' :: cs) = skip cs := rfl
    rw [hskip]
    cases value fuel room (skip cs) <;> rfl
  next hno => exact absurd rfl (hno _)

theorem fields_field {f : String × Datum} {g : List Nat × Value} (h : FieldLegible other f g) (fuel room : Nat)
    {tail : List Char} (hf : Follows tail) :
    fields (fuel + 2) room (fieldText other f ++ tail) = afterField (fuel + 1) room g tail := by
  obtain ⟨hname, hvalue⟩ := h
  rw [fieldText_append, fields_name, hvalue.opens, hvalue.reads _ _ _ hf, ← hname]
  rfl

/-- The text of the fields of a record. -/
def fieldsText (other : Datum → String) (fs : List (String × Datum)) : List Char :=
  (String.intercalate ", " (writeFields other fs)).toList

theorem fieldsText_cons (f f' : String × Datum) (fs : List (String × Datum)) :
    fieldsText other (f :: f' :: fs) =
      fieldText other f ++ ',' :: ' ' :: fieldsText other (f' :: fs) := by
  show (String.intercalate ", " (_ :: _ :: _)).toList = _
  rw [String.intercalate_cons_cons, String.toList_append, String.toList_append, List.append_assoc]
  rfl

theorem fieldsText_singleton (f : String × Datum) : fieldsText other [f] = fieldText other f := by
  show (String.intercalate ", " [_]).toList = _
  rw [String.intercalate_singleton]
  rfl

theorem exists_fieldText (other : Datum → String) (f : String × Datum) :
    ∃ cs, fieldText other f = '"' :: cs :=
  ⟨_, (List.append_nil _).symm.trans (fieldText_append f [])⟩

/-- The text of fields begins with a name, and has a character at least for each of them. -/
theorem exists_fieldsText (other : Datum → String) (f : String × Datum)
    (fs : List (String × Datum)) :
    ∃ cs, fieldsText other (f :: fs) = '"' :: cs ∧ fs.length ≤ cs.length := by
  obtain ⟨cs, hcs⟩ := exists_fieldText other f
  induction fs generalizing f cs with
  | nil => exact ⟨cs, (fieldsText_singleton f).trans hcs, Nat.zero_le _⟩
  | cons f' fs ih =>
      obtain ⟨ds, hds⟩ := exists_fieldText other f'
      obtain ⟨es, hes, hlen⟩ := ih f' ds hds
      refine ⟨cs ++ ',' :: ' ' :: '"' :: es, ?_, ?_⟩
      · rw [fieldsText_cons, hcs, hes]
        rfl
      · simp only [List.length_cons, List.length_append]
        omega

/-- **The fields of a record read back, in their order.** -/
theorem fields_written {f : String × Datum} {g : List Nat × Value} {fs : List (String × Datum)}
    {gs : List (List Nat × Value)} (hf : FieldLegible other f g) (hfs : List.Forall₂ (FieldLegible other) fs gs) (fuel : Nat)
    (hfuel : fs.length + 2 ≤ fuel) (room : Nat) (tail : List Char) :
    fields fuel room (fieldsText other (f :: fs) ++ '\x7d' :: tail) = .ok (g :: gs, tail) := by
  induction hfs generalizing f g fuel with
  | nil =>
      obtain ⟨n, rfl⟩ := Nat.exists_eq_add_of_le' hfuel
      rw [fieldsText_singleton]
      exact fields_field hf n room (.brace tail)
  | @cons f' g' fs gs hf' hfs ih =>
      rw [List.length_cons] at hfuel
      obtain ⟨n, rfl⟩ := Nat.exists_eq_add_of_le' (by omega : 2 ≤ fuel)
      have hrest := ih hf' (n + 1) (by omega)
      obtain ⟨cs, hcs, -⟩ := exists_fieldsText other f' fs
      rw [fieldsText_cons, List.append_assoc]
      refine (fields_field hf n room (.comma _)).trans ?_
      rw [hcs] at hrest ⊢
      show (fields (n + 1) room ('"' :: cs ++ '\x7d' :: tail)).map _ = _
      rw [hrest]
      rfl

theorem value_record {fs : List (String × Datum)} {gs : List (List Nat × Value)}
    (h : List.Forall₂ (FieldLegible other) fs gs) {fuel : Nat} (hfuel : fs.length + 2 ≤ fuel) (room : Nat) (tail : List Char) :
    value fuel (room + 1) ('\x7b' :: (fieldsText other fs ++ '\x7d' :: tail)) =
      .ok (.record (Entries.ofPairs gs), tail) := by
  obtain ⟨n, rfl⟩ := Nat.exists_eq_add_of_le' (by omega : 1 ≤ fuel)
  cases h with
  | nil => rfl
  | @cons f g fs gs hf hfs =>
      rw [List.length_cons] at hfuel
      have hread := fields_written hf hfs n (by omega) room tail
      obtain ⟨cs, hcs, -⟩ := exists_fieldsText other f fs
      rw [hcs] at hread ⊢
      show (fields n room ('"' :: cs ++ '\x7d' :: tail)).map _ = _
      rw [hread]
      rfl

theorem length_le_fieldsText (other : Datum → String) (fs : List (String × Datum)) :
    fs.length ≤ (fieldsText other fs).length := by
  cases fs with
  | nil => exact Nat.zero_le _
  | cons f fs =>
      obtain ⟨cs, hcs, hlen⟩ := exists_fieldsText other f fs
      rw [hcs]
      exact Nat.succ_le_succ hlen

/-- **The text of a record with legible fields reads back as the record.** -/
theorem read_record {fs : List (String × Datum)} {gs : List (List Nat × Value)}
    (h : List.Forall₂ (FieldLegible other) fs gs) (room : Nat) :
    read (room + 1) (write other (.record fs)) = .ok (.record (Entries.ofPairs gs)) := by
  have htext : (write other (.record fs)).toList =
      '\x7b' :: (fieldsText other fs ++ ['\x7d']) := by
    rw [write, String.toList_append, String.toList_append]
    rfl
  have hfuel : fs.length + 2 ≤ 2 * ('\x7b' :: (fieldsText other fs ++ ['\x7d'])).length + 2 := by
    have hlen := length_le_fieldsText other fs
    simp only [List.length_cons, List.length_append]
    omega
  unfold read
  dsimp only
  rw [htext, skip_of_ne rfl, value_record h hfuel]
  rfl

/-! ### Flat records -/

/-- Whether a value may stand in a flat record that has a text: it is a text, or a whole number of at
most `Decimal.digitLimit` digits, beyond which a number is no more made a text than read from one. -/
def hasText : Datum → Bool
  | .int n  => (Nat.toDigits 10 n.natAbs).length ≤ Decimal.digitLimit
  | .text _ => true
  | _       => false

/-- The text of a flat record, where it has one. -/
def rendered? (other : Datum → String) (fs : List (String × Datum)) : Option String :=
  if fs.all fun f => hasText f.2 then some (write other (.record fs)) else none

/-- What a value of a flat record reads back as. -/
def readValue : Datum → Value
  | .int n  => .int n
  | .text s => .text (Text.codes s)
  | _       => .null

/-- What a field of a flat record reads back as. -/
def readField (f : String × Datum) : List Nat × Value := f.map Text.codes readValue

theorem legible_readField {f : String × Datum} (h : hasText f.2 = true) :
    FieldLegible other f (readField f) := by
  obtain ⟨k, d⟩ := f
  refine ⟨rfl, ?_⟩
  cases d with
  | int n => exact legible_int (of_decide_eq_true h)
  | text s => exact legible_text s
  | _ => cases h

theorem toDatum_readValue {d : Datum} (h : hasText d = true) : (readValue d).toDatum = d := by
  cases d with
  | int n => rfl
  | text s => exact congrArg Datum.text (spell_codes s)
  | _ => cases h

/-- **A map of texts and whole numbers comes to itself** when it is read back. -/
theorem toFields_ofPairs {fs : List (String × Datum)} (h : ∀ f ∈ fs, hasText f.2 = true) :
    Value.toFields (Entries.ofPairs (fs.map readField)) = Entries.ofPairs fs := by
  have hread : Entries.ofPairs (fs.map readField) = (Entries.ofPairs fs).map readField :=
    Entries.putAll_map codes_beq [] fs
  have hflat : ∀ f ∈ Entries.ofPairs fs, hasText f.2 = true :=
    Entries.forall_putAll (P := fun d => hasText d = true) (List.forall_mem_nil _) h
  rw [hread, Value.toFields_eq_map, List.map_map]
  refine (List.map_congr_left fun f hf => ?_).trans (List.map_id _)
  exact Prod.ext (spell_codes f.1) (toDatum_readValue (hflat f hf))

/-- **A flat record reads back from its text**, where it has one. -/
theorem read_rendered {fs : List (String × Datum)} {s : String} (h : rendered? other fs = some s)
    (room : Nat) :
    ∃ gs, read (room + 1) s = .ok (.record gs) ∧ Value.toFields gs = Entries.ofPairs fs := by
  unfold rendered? at h
  split at h
  case isFalse => cases h
  case isTrue hall =>
    obtain rfl := Option.some.inj h
    have htext := List.all_eq_true.mp hall
    refine ⟨_, read_record (List.forall₂_map_right_iff.mpr (List.forall₂_same.mpr fun f hf => ?_)) room,
      toFields_ofPairs htext⟩
    exact legible_readField (htext f hf)

end FleetHealth.Json
