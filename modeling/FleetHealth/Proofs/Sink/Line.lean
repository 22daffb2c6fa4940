import FleetHealth.Emitter.Basic
import FleetHealth.Proofs.Binary64.Text
import FleetHealth.Proofs.Text.Split

/-!
# Proofs — Sink — Line

A line of the datagram sink can be read back.  Names, values, type codes and tag keys hold none of the characters that separate the parts of a line, and the values of tags are rid of all but the colon; a key is cut from its value at the first colon, so the colons of a value do no harm.

* `parse` reads a line: it is split at bars, the tags at commas, and every tag at its first colon.
* `parse_encode`: reading gives back the name, the text of the value, the type code and, in order, every key with its sanitised value.
* `line_decodable` is the whole account, for every sample that can come to be sent (`Sendable`): which separators a line holds and how many of them, that it is read back, and which samples have the same line.
-/

namespace FleetHealth.Line

/-! ### Reading a line -/

/-- What a line says. -/
structure Parts where
  name : String
  value : String
  code : String
  tags : Tags
deriving DecidableEq

/-- The tags of a section that begins with a number sign. -/
def parseTags (s : String) : Option Tags :=
  match s.toList with
  | '#' :: cs => (Text.split ',' (String.ofList cs)).mapM (Text.cut ':')
  | _         => none

/-- The name and the text of the value, parted at the first colon. -/
def parseHead (s code : String) (tags : Tags) : Option Parts :=
  (Text.cut ':' s).map fun h => ⟨h.1, h.2, code, tags⟩

/-- The parts of a line. -/
def parse (line : String) : Option Parts :=
  match Text.split '|' line with
  | [head, code]       => parseHead head code []
  | [head, code, tags] => (parseTags tags).bind (parseHead head code)
  | _                  => none

/-- A tag with its value as it is sent. -/
def sent (t : String × String) : String × String := (t.1, sanitize t.2)

/-! ### Clean texts -/

/-- Whether a text holds no character that separates the parts of a line, and no white space. -/
def IsClean (s : String) : Prop := ∀ c ∈ s.toList, isUnsafe c = false

instance (s : String) : Decidable (IsClean s) :=
  decidable_of_iff (s.toList.all (!isUnsafe ·) = true) (by simp [IsClean])

theorem isUnsafe_eq_false_iff {c : Char} :
    isUnsafe c = false ↔ c ≠ ',' ∧ c ≠ '|' ∧ c ≠ '#' ∧ Text.isBlank c = false := by
  simp [isUnsafe, and_assoc]

theorem IsClean.not_mem {s : String} (h : IsClean s) {c : Char} (hc : isUnsafe c = true) :
    c ∉ s.toList := by
  intro hm
  rw [h c hm] at hc
  cases hc

theorem IsClean.count {s : String} (h : IsClean s) {c : Char} (hc : isUnsafe c = true) :
    s.toList.count c = 0 :=
  List.count_eq_zero.mpr (h.not_mem hc)

theorem IsClean.append {s t : String} (hs : IsClean s) (ht : IsClean t) : IsClean (s ++ t) := by
  intro c hc
  rw [String.toList_append, List.mem_append] at hc
  exact hc.elim (hs c) (ht c)

theorem isClean_sanitize (s : String) : IsClean (sanitize s) := by
  intro c hc
  rw [sanitize, String.toList_ofList] at hc
  obtain ⟨d, -, rfl⟩ := List.mem_map.mp hc
  by_cases hd : isUnsafe d = true
  · rw [if_pos hd]
    rfl
  · rw [if_neg hd]
    exact Bool.eq_false_iff.mpr hd

theorem sanitize_of_isClean {s : String} (h : IsClean s) : sanitize s = s := by
  have hmap : s.toList.map (fun c => if isUnsafe c then '_' else c) = s.toList.map id :=
    List.map_congr_left fun c hc => by rw [h c hc]; rfl
  rw [sanitize, hmap, List.map_id, String.ofList_toList]

theorem isClean_typeCode (t : MetricType) : IsClean (typeCode t) := by
  cases t <;> decide

/-! ### The text of a value -/

theorem toNat_of_isDigit {c : Char} (h : c.isDigit = true) : 48 ≤ c.toNat ∧ c.toNat ≤ 57 := by
  simpa [Char.isDigit, UInt32.le_iff_toNat_le] using h

theorem isUnsafe_of_isNumeral {c : Char} (h : Binary64.isNumeral c = true) :
    isUnsafe c = false ∧ c ≠ ':' := by
  simp only [Binary64.isNumeral, Bool.or_eq_true, decide_eq_true_eq] at h
  rcases h with (((h | rfl) | rfl) | rfl) | rfl
  case inl.inl.inl.inl =>
    have hd := toNat_of_isDigit h
    have hne : ∀ d : Char, (d.toNat < 48 ∨ 57 < d.toNat) → c ≠ d := by
      rintro d hd' rfl
      omega
    refine ⟨isUnsafe_eq_false_iff.mpr ⟨hne _ (by decide), hne _ (by decide), hne _ (by decide), ?_⟩,
      hne _ (by decide)⟩
    simp only [Text.isBlank, Bool.or_eq_false_iff, Bool.and_eq_false_iff, decide_eq_false_iff_not,
      beq_eq_false_iff_ne]
    omega
  all_goals decide

/-- **A whole number that is not negative** has its plain decimal digits for a text. -/
theorem valueText_of_isWhole {x : Binary64} (hn : x.lt .zero = false) (hw : x.isWhole = true) :
    ∃ n : Nat, x.signedUnits = (n * unitsPerOne : Nat) ∧ valueText x = toString n := by
  cases x with
  | nan => cases hw
  | infinity s => cases hw
  | finite s a held =>
      have hw' : a % unitsPerOne = 0 := by simpa [Binary64.isWhole] using hw
      have hdvd : a / unitsPerOne * unitsPerOne = a := Nat.div_mul_cancel (Nat.dvd_of_mod_eq_zero hw')
      have hzero : s = true → a = 0 := by
        rintro rfl
        have hlt : decide (-(a : Int) < 0) = false := hn
        have hle := of_decide_eq_false hlt
        omega
      refine ⟨a / unitsPerOne, ?_, ?_⟩
      · rw [hdvd]
        cases s with
        | false => rfl
        | true =>
            show -(a : Int) = a
            rw [hzero rfl]
            rfl
      · rw [valueText, if_pos hw]
        cases s with
        | false => rfl
        | true =>
            show toString (-((a : Int) / (unitsPerOne : Int))) = toString (a / unitsPerOne)
            rw [hzero rfl, Nat.zero_div, Int.natCast_zero, Int.zero_ediv, Int.neg_zero]
            rfl

theorem isNumeral_of_mem_valueText {x : Binary64} (hf : x.isFinite = true)
    (hn : x.lt .zero = false) {c : Char} (h : c ∈ (valueText x).toList) :
    Binary64.isNumeral c = true := by
  by_cases hw : x.isWhole = true
  · obtain ⟨n, -, ht⟩ := valueText_of_isWhole hn hw
    rw [ht] at h
    exact Binary64.isNumeral_of_mem_toString h
  · rw [valueText, if_neg hw] at h
    exact Binary64.isNumeral_of_mem_text hf h

/-! ### Samples that can come to be sent -/

/-- A sample that can come to be sent: of a metric of the catalog, with a finite value that is not
negative, and with the dimensions of the metric for tags, perhaps followed by the application tag. -/
structure Sendable (m : Metric) (x : Binary64) (tags : Tags) : Prop where
  listed : m ∈ Metric.catalog
  finite : x.isFinite = true
  notNegative : x.lt .zero = false
  keys : tags.map Prod.fst = m.dimensions
    ∨ ∃ schema application, application ≠ "" ∧ schema.map Prod.fst = m.dimensions
      ∧ tags = schema ++ [(Emitter.applicationKey, application)]

theorem catalog_names : ∀ m ∈ Metric.catalog, IsClean m.name ∧ ':' ∉ m.name.toList := by
  decide +kernel

theorem catalog_dimensions : ∀ m ∈ Metric.catalog, ∀ k ∈ Emitter.applicationKey :: m.dimensions,
    IsClean k ∧ ':' ∉ k.toList := by
  decide +kernel

theorem eq_of_name_eq : ∀ m ∈ Metric.catalog, ∀ m' ∈ Metric.catalog, m.name = m'.name → m = m' := by
  decide +kernel

namespace Sendable

variable {m m' : Metric} {x x' : Binary64} {tags tags' : Tags}

theorem key (h : Sendable m x tags) {t : String × String} (ht : t ∈ tags) :
    IsClean t.1 ∧ ':' ∉ t.1.toList := by
  refine catalog_dimensions m h.listed t.1 ?_
  rcases h.keys with hk | ⟨schema, a, -, hk, rfl⟩
  · rw [← hk]
    exact List.mem_cons_of_mem _ (List.mem_map_of_mem ht)
  · rcases List.mem_append.mp ht with ht | ht
    · rw [← hk]
      exact List.mem_cons_of_mem _ (List.mem_map_of_mem ht)
    · rw [List.mem_singleton.mp ht]
      exact List.mem_cons_self

theorem value (h : Sendable m x tags) : IsClean (valueText x) ∧ ':' ∉ (valueText x).toList := by
  refine ⟨fun c hc => ?_, fun hc => ?_⟩
  · exact (isUnsafe_of_isNumeral (isNumeral_of_mem_valueText h.finite h.notNegative hc)).1
  · exact (isUnsafe_of_isNumeral (isNumeral_of_mem_valueText h.finite h.notNegative hc)).2 rfl

/-- The name and the value, as they stand in a line. -/
theorem head (h : Sendable m x tags) : IsClean (m.name ++ ":" ++ valueText x) := by
  have hcolon : IsClean ":" := by decide
  exact ((catalog_names m h.listed).1.append hcolon).append h.value.1

end Sendable

/-! ### The tags of a line -/

theorem isClean_tagText (t : String × String) : IsClean (tagText t) := by
  have hcolon : IsClean ":" := by decide
  exact ((isClean_sanitize t.1).append hcolon).append (isClean_sanitize t.2)

/-- A tag is cut into its key and its sanitised value. -/
theorem cut_tagText {t : String × String} (hk : IsClean t.1) (hc : ':' ∉ t.1.toList) :
    Text.cut ':' (tagText t) = some (sent t) := by
  rw [tagText, sanitize_of_isClean hk]
  exact Text.cut_append hc (sanitize t.2)

/-- The tags joined by commas. -/
def joinTags (tags : Tags) : String := String.intercalate "," (tags.map tagText)

theorem tagSection_of_ne_nil {tags : Tags} (h : tags ≠ []) :
    tagSection tags = "|#" ++ joinTags tags := by
  rw [tagSection, if_neg (by rw [List.isEmpty_iff]; exact h)]
  rfl

theorem comma_not_mem_tagText {tags : Tags} : ∀ p ∈ tags.map tagText, ',' ∉ p.toList := by
  intro p hp
  obtain ⟨t, -, rfl⟩ := List.mem_map.mp hp
  exact (isClean_tagText t).not_mem rfl

/-- Joined tags hold no separator but the commas between them. -/
theorem mem_joinTags {tags : Tags} {c : Char} (h : c ∈ (joinTags tags).toList) :
    c = ',' ∨ isUnsafe c = false := by
  have h : c ∈ (String.intercalate (String.singleton ',') (tags.map tagText)).toList := h
  rcases Text.mem_intercalate h with h | ⟨p, hp, hc⟩
  · exact .inl h
  · obtain ⟨t, -, rfl⟩ := List.mem_map.mp hp
    exact .inr (isClean_tagText t c hc)

theorem count_joinTags {tags : Tags} {c : Char} (hc : c ≠ ',') (hu : isUnsafe c = true) :
    (joinTags tags).toList.count c = 0 := by
  refine List.count_eq_zero.mpr fun hm => ?_
  rcases mem_joinTags hm with h | h
  · exact hc h
  · rw [h] at hu
    cases hu

theorem count_comma_joinTags (tags : Tags) : (joinTags tags).toList.count ',' = tags.length - 1 := by
  rw [joinTags]
  exact (Text.count_intercalate comma_not_mem_tagText).trans (by rw [List.length_map])

/-- **The tags of a line are read back**, in order, each with its sanitised value. -/
theorem parseTags_joinTags {tags : Tags} (h : tags ≠ [])
    (hk : ∀ t ∈ tags, IsClean t.1 ∧ ':' ∉ t.1.toList) :
    parseTags ("#" ++ joinTags tags) = some (tags.map sent) := by
  have hchars : ("#" ++ joinTags tags).toList = '#' :: (joinTags tags).toList := by
    rw [String.toList_append]
    rfl
  have hsplit : Text.split ',' (joinTags tags) = tags.map tagText :=
    Text.split_intercalate comma_not_mem_tagText fun hn => h (List.map_eq_nil_iff.mp hn)
  have hcut : ∀ ts : Tags, (∀ t ∈ ts, IsClean t.1 ∧ ':' ∉ t.1.toList) →
      (ts.map tagText).mapM (Text.cut ':') = some (ts.map sent) := by
    intro ts
    induction ts with
    | nil => exact fun _ => rfl
    | cons t ts ih =>
        intro hts
        rw [List.forall_mem_cons] at hts
        rw [List.map_cons, List.mapM_cons, cut_tagText hts.1.1 hts.1.2, ih hts.2]
        rfl
  rw [parseTags, hchars]
  show (Text.split ',' (String.ofList (joinTags tags).toList)).mapM (Text.cut ':') = _
  rw [String.ofList_toList, hsplit, hcut tags hk]

/-! ### The whole line -/

section encode

variable {m m' : Metric} {x x' : Binary64} {tags tags' : Tags}

/-- The pieces of a line between its bars. -/
def pieces (m : Metric) (x : Binary64) (tags : Tags) : List String :=
  [m.name ++ ":" ++ valueText x, typeCode m.type]
    ++ if tags.isEmpty then [] else ["#" ++ joinTags tags]

theorem encode_eq_intercalate (m : Metric) (x : Binary64) (tags : Tags) :
    encode m x tags = String.intercalate "|" (pieces m x tags) := by
  unfold encode pieces tagSection joinTags
  cases tags with
  | nil => simp [String.intercalate_cons_cons]
  | cons t ts =>
      have hmark : ("|#" : String) = "|" ++ "#" := by decide
      simp only [String.intercalate_cons_cons, String.intercalate_singleton, String.append_assoc,
        List.isEmpty_cons, Bool.false_eq_true, if_false, List.cons_append, List.nil_append]
      rw [hmark, String.append_assoc]

theorem Sendable.pieces (h : Sendable m x tags) :
    ∀ p ∈ Line.pieces m x tags, '|' ∉ p.toList := by
  intro p hp
  rw [Line.pieces, List.mem_append] at hp
  rcases hp with hp | hp
  · rcases List.mem_cons.mp hp with rfl | hp
    · exact h.head.not_mem rfl
    · obtain rfl := List.mem_singleton.mp hp
      exact (isClean_typeCode m.type).not_mem rfl
  · split at hp
    · cases hp
    · obtain rfl := List.mem_singleton.mp hp
      rw [String.toList_append, List.mem_append, not_or]
      exact ⟨by decide, List.count_eq_zero.mp (count_joinTags (by decide) rfl)⟩

theorem Sendable.split_encode (h : Sendable m x tags) :
    Text.split '|' (encode m x tags) = Line.pieces m x tags := by
  rw [encode_eq_intercalate]
  exact Text.split_intercalate h.pieces (by rw [Line.pieces]; exact List.cons_ne_nil _ _)

/-- **A line is read back.** -/
theorem parse_encode (h : Sendable m x tags) :
    parse (encode m x tags) = some ⟨m.name, valueText x, typeCode m.type, tags.map sent⟩ := by
  have hhead : ∀ ts, parseHead (m.name ++ ":" ++ valueText x) (typeCode m.type) ts =
      some ⟨m.name, valueText x, typeCode m.type, ts⟩ := by
    intro ts
    rw [parseHead]
    exact congrArg _ (Text.cut_append (catalog_names m h.listed).2 (valueText x))
  rw [parse, h.split_encode, Line.pieces]
  cases tags with
  | nil => exact hhead []
  | cons t ts =>
      have htags := parseTags_joinTags (List.cons_ne_nil t ts) fun _ ht => h.key ht
      show (parseTags ("#" ++ joinTags (t :: ts))).bind _ = _
      rw [htags]
      exact hhead _

/-- A line says no more of its tags than their keys and their sanitised values. -/
theorem Sendable.tagTexts (h : Sendable m x tags) :
    tags.map tagText = (tags.map sent).map fun t => t.1 ++ ":" ++ t.2 := by
  rw [List.map_map]
  refine List.map_congr_left fun t ht => ?_
  rw [tagText, sanitize_of_isClean (h.key ht).1]
  rfl

theorem Sendable.encode_eq_iff (h : Sendable m x tags) (h' : Sendable m' x' tags') :
    encode m x tags = encode m' x' tags' ↔
      m = m' ∧ valueText x = valueText x' ∧ tags.map sent = tags'.map sent := by
  constructor
  · intro he
    have hp := parse_encode h
    rw [he, parse_encode h'] at hp
    obtain ⟨hn, hv, -, ht⟩ := Parts.mk.inj (Option.some.inj hp)
    exact ⟨eq_of_name_eq m h.listed m' h'.listed hn.symm, hv.symm, ht.symm⟩
  · rintro ⟨rfl, hv, ht⟩
    have hempty : tags.isEmpty = tags'.isEmpty := by
      have hl := congrArg List.length ht
      rw [List.length_map, List.length_map] at hl
      rw [Bool.eq_iff_iff, List.isEmpty_iff_length_eq_zero, List.isEmpty_iff_length_eq_zero, hl]
    have htexts : tags.map tagText = tags'.map tagText := by
      rw [h.tagTexts, h'.tagTexts, ht]
    rw [encode_eq_intercalate, encode_eq_intercalate, Line.pieces, Line.pieces, hv, hempty, joinTags,
      joinTags, htexts]

/-- **A line of a sample without tags** holds one bar and no number sign. -/
theorem Sendable.count_bare (h : Sendable m x tags) (ht : tags = []) :
    (encode m x tags).toList.count '|' = 1 ∧ (encode m x tags).toList.count '#' = 0 := by
  subst ht
  refine ⟨?_, ?_⟩
  · rw [encode_eq_intercalate]
    exact Text.count_intercalate h.pieces
  · have hnil : tagSection [] = "" := rfl
    rw [encode, hnil, String.append_empty, String.toList_append, String.toList_append,
      List.count_append, List.count_append, h.head.count rfl, (isClean_typeCode m.type).count rfl]
    rfl

/-- **A line of a sample with tags** holds two bars, one number sign, and a comma between each two
tags. -/
theorem Sendable.count_tagged (h : Sendable m x tags) (ht : tags ≠ []) :
    (encode m x tags).toList.count '|' = 2 ∧ (encode m x tags).toList.count '#' = 1
      ∧ (tagSection tags).toList.count ',' = tags.length - 1 := by
  have hempty : tags.isEmpty = false := Bool.eq_false_iff.mpr fun he => ht (List.isEmpty_iff.mp he)
  have hmark : ∀ c, ("|#" : String).toList.count c = ['|', '#'].count c := fun _ => rfl
  refine ⟨?_, ?_, ?_⟩
  · rw [encode_eq_intercalate]
    refine (Text.count_intercalate h.pieces).trans ?_
    rw [Line.pieces, hempty]
    rfl
  · have htags : ("|#" ++ joinTags tags).toList.count '#' = 1 := by
      rw [String.toList_append, List.count_append, hmark, count_joinTags (by decide) rfl]
      rfl
    rw [encode, tagSection_of_ne_nil ht, String.toList_append, List.count_append, htags,
      String.toList_append, List.count_append, (isClean_typeCode m.type).count rfl,
      String.toList_append, List.count_append, h.head.count rfl]
    rfl
  · rw [tagSection_of_ne_nil ht, String.toList_append, List.count_append, hmark,
      count_comma_joinTags, List.count_eq_zero.mpr (by decide), Nat.zero_add]

/-- **No white space** stands in a line. -/
theorem Sendable.not_isBlank (h : Sendable m x tags) {c : Char}
    (hc : c ∈ (encode m x tags).toList) : Text.isBlank c = false := by
  have hclean : ∀ {s : String}, IsClean s → c ∈ s.toList → Text.isBlank c = false :=
    fun hs hm => (isUnsafe_eq_false_iff.mp (hs c hm)).2.2.2
  rw [encode, String.toList_append, String.toList_append, List.mem_append, List.mem_append,
    String.toList_append, List.mem_append] at hc
  rcases hc with ((hc | hc) | hc) | hc
  · exact hclean h.head hc
  · obtain rfl : c = '|' := List.mem_singleton.mp hc
    rfl
  · exact hclean (isClean_typeCode m.type) hc
  · by_cases ht : tags = []
    · rw [ht] at hc
      cases hc
    · rw [tagSection_of_ne_nil ht, String.toList_append, List.mem_append] at hc
      rcases hc with hc | hc
      · have hmark : "|#".toList.all (!Text.isBlank ·) = true := by decide
        exact (Bool.not_eq_true' _).mp (List.all_eq_true.mp hmark c hc)
      · rcases mem_joinTags hc with rfl | hc
        · rfl
        · exact (isUnsafe_eq_false_iff.mp hc).2.2.2

end encode

/-! ### The account of a line -/

/-- **Lines are decodable.**  The line of a sample that can come to be sent holds no white space.
Without tags it holds one bar and no number sign; with tags two bars, one number sign, and in its
tags a comma between each two.  Reading it gives back the name, the text of the value, the type code,
and every key with its sanitised value, in order.  Two such samples have one line exactly when they
have one metric, one text of the value and the same sanitised tags.  The text of a whole value is its
plain decimal. -/
theorem line_decodable {m : Metric} {x : Binary64} {tags : Tags} (h : Sendable m x tags) :
    (∀ c ∈ (encode m x tags).toList, Text.isBlank c = false)
    ∧ (tags = [] → (encode m x tags).toList.count '|' = 1 ∧ (encode m x tags).toList.count '#' = 0)
    ∧ (tags ≠ [] → (encode m x tags).toList.count '|' = 2 ∧ (encode m x tags).toList.count '#' = 1
        ∧ (tagSection tags).toList.count ',' = tags.length - 1)
    ∧ parse (encode m x tags) =
        some ⟨m.name, valueText x, typeCode m.type, tags.map fun t => (t.1, sanitize t.2)⟩
    ∧ (∀ m' x' tags', Sendable m' x' tags' → (encode m x tags = encode m' x' tags' ↔
        m = m' ∧ valueText x = valueText x'
          ∧ tags.map (fun t => (t.1, sanitize t.2)) = tags'.map fun t => (t.1, sanitize t.2)))
    ∧ (x.isWhole = true →
        ∃ n : Nat, x.signedUnits = (n * unitsPerOne : Nat) ∧ valueText x = toString n) :=
  ⟨fun _ hc => h.not_isBlank hc, h.count_bare, h.count_tagged, parse_encode h,
    fun _ _ _ h' => h.encode_eq_iff h', valueText_of_isWhole h.notNegative⟩

/-- Two tags, of which one holds separators, a line end and a colon. -/
def awkwardTags : Tags := [("queue", "a,b|c#d\n:e"), ("application", "metrics reporter")]

/-- The separators in the value of a tag are gone from the line, and its colon is not. -/
theorem line_of_awkward_tags :
    Sendable .jobRunningByQueue .zero awkwardTags
    ∧ (encode .jobRunningByQueue .zero awkwardTags).toList.count '|' = 2
    ∧ parse (encode .jobRunningByQueue .zero awkwardTags) =
        some ⟨"job_running_by_queue", "0", "g",
          [("queue", "a_b_c_d_:e"), ("application", "metrics_reporter")]⟩ := by
  have h : Sendable .jobRunningByQueue .zero awkwardTags :=
    { listed := by decide +kernel
      finite := rfl
      notNegative := by decide +kernel
      keys := .inr ⟨[("queue", "a,b|c#d\n:e")], "metrics reporter", by decide, rfl, rfl⟩ }
  obtain ⟨-, -, htagged, hparse, -⟩ := line_decodable h
  refine ⟨h, (htagged (List.cons_ne_nil _ _)).1, hparse.trans ?_⟩
  decide +kernel

end FleetHealth.Line
