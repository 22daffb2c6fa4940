import FleetHealth.Url.Basic

/-!
# Proofs — URL — Parts

Taking a URL apart and putting it together.  `assemble` writes a scheme, an authority and a remainder one after another; where all of it is printable ASCII and the authority holds no bracket, `split` finds these parts again (`split_assemble`), and `join` writes them again but for the marks of an empty query or fragment (`join_parts`).

The remainder is a path, a query and a fragment, of which `remainder` is the text and `pathOf`, `queryOf` and `fragmentOf` are the parts.
-/

namespace FleetHealth.Url

/-! ### Characters -/

/-- Printable ASCII. -/
def isPlain (c : Char) : Bool := 0x20 ≤ c.toNat && c.toNat ≤ 0x7E

/-- Printable ASCII that neither ends an authority nor is a bracket. -/
def isAuthorityChar (c : Char) : Bool :=
  isPlain c && !endsAuthority c && c ≠ '[' && c ≠ ']'

/-- A scheme: a letter, and then letters, digits and three marks. -/
structure IsScheme (cs : List Char) : Prop where
  letter : ∃ s ss, cs = s :: ss ∧ isLetter s = true
  chars : ∀ c ∈ cs, isSchemeChar c = true

/-- What may follow an authority. -/
structure IsRemainder (cs : List Char) : Prop where
  plain : ∀ c ∈ cs, isPlain c = true
  start : ∀ c ∈ cs.head?, endsAuthority c = true

theorem toNat_lt_of_isSchemeChar {c : Char} (h : isSchemeChar c = true) : c.toNat < 128 := by
  simp only [isSchemeChar, Bool.or_eq_true, Bool.and_eq_true, decide_eq_true_eq, Char.le_def,
    UInt32.le_iff_toNat_le] at h
  have hz : ('z' : Char).val.toNat = 122 ∧ ('Z' : Char).val.toNat = 90 ∧ ('9' : Char).val.toNat = 57 := by
    decide
  show c.val.toNat < 128
  rcases h with ((((h | h) | h) | rfl) | rfl) | rfl
  · omega
  · omega
  · omega
  all_goals decide

/-- What holds of every character of ASCII holds of the characters of a scheme. -/
theorem of_isSchemeChar {P : Char → Prop} (hP : ∀ n < 128, isSchemeChar (Char.ofNat n) = true →
    P (Char.ofNat n)) {c : Char} (h : isSchemeChar c = true) : P c := by
  have hc : Char.ofNat c.toNat = c := Char.ofNat_toNat c
  have hp := hP c.toNat (toNat_lt_of_isSchemeChar h)
  rw [hc] at hp
  exact hp h

theorem isSchemeChar_isPlain {c : Char} (h : isSchemeChar c = true) :
    isPlain c = true ∧ c ≠ ':' := by
  refine of_isSchemeChar (P := fun c => isPlain c = true ∧ c ≠ ':') ?_ h
  decide +kernel

theorem lowerChar_scheme {c : Char} (h : isSchemeChar c = true) :
    isSchemeChar (Text.lowerChar c) = true
      ∧ Text.lowerChar (Text.lowerChar c) = Text.lowerChar c
      ∧ (isLetter c = true → isLetter (Text.lowerChar c) = true) := by
  refine of_isSchemeChar (P := fun c => isSchemeChar (Text.lowerChar c) = true
    ∧ Text.lowerChar (Text.lowerChar c) = Text.lowerChar c
    ∧ (isLetter c = true → isLetter (Text.lowerChar c) = true)) ?_ h
  decide +kernel

/-- A scheme in lower case is a scheme. -/
theorem IsScheme.lower {cs : List Char} (h : IsScheme cs) : IsScheme (cs.map Text.lowerChar) where
  letter := by
    obtain ⟨s, ss, rfl, hs⟩ := h.letter
    refine ⟨_, _, rfl, ?_⟩
    exact (lowerChar_scheme (h.chars s List.mem_cons_self)).2.2 hs
  chars := by
    intro c hc
    obtain ⟨d, hd, rfl⟩ := List.mem_map.mp hc
    exact (lowerChar_scheme (h.chars d hd)).1

theorem IsScheme.lower_lower {cs : List Char} (h : IsScheme cs) :
    (cs.map Text.lowerChar).map Text.lowerChar = cs.map Text.lowerChar := by
  rw [List.map_map]
  exact List.map_congr_left fun c hc => (lowerChar_scheme (h.chars c hc)).2.1

theorem isAuthorityChar_iff {c : Char} :
    isAuthorityChar c = true ↔
      isPlain c = true ∧ endsAuthority c = false ∧ c ≠ '[' ∧ c ≠ ']' := by
  simp [isAuthorityChar, and_assoc]

/-! ### Breaking a text -/

theorem breakAt_append {p : Char → Bool} {cs ds : List Char} {d : Char}
    (hcs : ∀ c ∈ cs, p c = false) (hd : p d = true) : breakAt p (cs ++ d :: ds) = some (cs, ds) := by
  have hall : ∀ c ∈ cs, (!p c) = true := fun c hc => by rw [hcs c hc]; rfl
  have hstop : ¬ (!p d) = true := by rw [hd]; exact Bool.false_ne_true
  rw [breakAt, List.dropWhile_append_of_pos hall, List.takeWhile_append_of_pos hall,
    List.dropWhile_cons_of_neg (p := fun c => !p c) hstop,
    List.takeWhile_cons_of_neg (p := fun c => !p c) hstop, List.append_nil]

/-- A text broken at a character, all of it before where there is none. -/
theorem breakAt_getD (p : Char → Bool) (cs : List Char) :
    (breakAt p cs).getD (cs, []) = (cs.takeWhile (!p ·), (cs.dropWhile (!p ·)).drop 1) := by
  unfold breakAt
  have hjoin := List.takeWhile_append_dropWhile (p := (!p ·)) (l := cs)
  split
  · next h =>
      rw [h, List.append_nil] at hjoin
      rw [hjoin, h]
      rfl
  · next h =>
      rw [h]
      rfl

theorem takeWhile_append_stop {p : Char → Bool} {cs ds : List Char} (hcs : ∀ c ∈ cs, p c = true)
    (hds : ∀ d ∈ ds.head?, p d = false) :
    (cs ++ ds).takeWhile p = cs ∧ (cs ++ ds).dropWhile p = ds := by
  rw [List.takeWhile_append_of_pos hcs, List.dropWhile_append_of_pos hcs]
  cases ds with
  | nil => exact ⟨List.append_nil cs, rfl⟩
  | cons d ds =>
      have hd : ¬ p d = true := by
        rw [hds d rfl]
        exact Bool.false_ne_true
      rw [List.takeWhile_cons_of_neg hd, List.dropWhile_cons_of_neg hd, List.append_nil]
      exact ⟨rfl, rfl⟩

/-! ### The remainder -/

/-- The path, query and fragment as they follow an authority. -/
def remainder (path query fragment : List Char) : List Char :=
  path ++ (if query.isEmpty then [] else '?' :: query)
    ++ (if fragment.isEmpty then [] else '#' :: fragment)

/-- What stands before the fragment. -/
def beforeFragment (rest : List Char) : List Char := rest.takeWhile fun c => !decide (c = '#')

/-- The path of a remainder. -/
def pathOf (rest : List Char) : List Char := (beforeFragment rest).takeWhile fun c => !decide (c = '?')

/-- The query of a remainder, empty where there is none. -/
def queryOf (rest : List Char) : List Char :=
  ((beforeFragment rest).dropWhile fun c => !decide (c = '?')).drop 1

/-- The fragment of a remainder, empty where there is none. -/
def fragmentOf (rest : List Char) : List Char := (rest.dropWhile fun c => !decide (c = '#')).drop 1

/-- A path: nothing, or a text that begins with a slash, without the marks that end it. -/
structure IsPath (cs : List Char) : Prop where
  slash : cs = [] ∨ ∃ ds, cs = '/' :: ds
  unmarked : '?' ∉ cs ∧ '#' ∉ cs

theorem of_mem_takeWhile {p : Char → Bool} {cs : List Char} {c : Char} (h : c ∈ cs.takeWhile p) :
    p c = true :=
  List.all_eq_true.mp List.all_takeWhile c h

theorem isPath_pathOf {rest : List Char} (h : IsRemainder rest) : IsPath (pathOf rest) where
  slash := by
    cases rest with
    | nil => exact .inl rfl
    | cons c cs =>
        have hc : (c = '/' ∨ c = '?') ∨ c = '#' := by
          have hs := h.start c rfl
          simpa only [endsAuthority, Bool.or_eq_true, decide_eq_true_eq] using hs
        rcases hc with (rfl | rfl) | rfl
        · exact .inr ⟨_, rfl⟩
        · exact .inl rfl
        · exact .inl rfl
  unmarked := by
    refine ⟨fun hm => ?_, fun hm => ?_⟩
    · have hp := of_mem_takeWhile hm
      simp at hp
    · have hp := of_mem_takeWhile ((List.takeWhile_prefix _).subset hm)
      simp at hp

theorem hash_not_mem_queryOf (rest : List Char) : '#' ∉ queryOf rest := by
  intro hm
  have hb : '#' ∈ beforeFragment rest :=
    (List.dropWhile_suffix _).subset ((List.drop_suffix 1 _).subset hm)
  have hp := of_mem_takeWhile hb
  simp at hp

/-- Every character of the parts is one of the remainder. -/
theorem mem_of_mem_parts {rest : List Char} {c : Char}
    (h : c ∈ pathOf rest ∨ c ∈ queryOf rest ∨ c ∈ fragmentOf rest) : c ∈ rest := by
  have hbefore : ∀ {d}, d ∈ beforeFragment rest → d ∈ rest := fun hd =>
    (List.takeWhile_prefix _).subset hd
  rcases h with h | h | h
  · exact hbefore ((List.takeWhile_prefix _).subset h)
  · exact hbefore ((List.dropWhile_suffix _).subset ((List.drop_suffix 1 _).subset h))
  · exact (List.dropWhile_suffix _).subset ((List.drop_suffix 1 _).subset h)

theorem beforeFragment_remainder {path query : List Char} (hp : IsPath path) (hq : '#' ∉ query)
    (fragment : List Char) :
    beforeFragment (remainder path query fragment) =
        path ++ (if query.isEmpty then [] else '?' :: query)
      ∧ fragmentOf (remainder path query fragment) = fragment := by
  have hall : ∀ c ∈ path ++ (if query.isEmpty then [] else '?' :: query),
      (!decide (c = '#')) = true := by
    intro c hc
    rw [Bool.not_eq_true', decide_eq_false_iff_not]
    rintro rfl
    rcases List.mem_append.mp hc with hc | hc
    · exact hp.unmarked.2 hc
    · split at hc
      · cases hc
      · rcases List.mem_cons.mp hc with hc | hc
        · exact absurd hc (by decide)
        · exact hq hc
  have hstop : ∀ d ∈ (if fragment.isEmpty then [] else '#' :: fragment).head?,
      (!decide (d = '#')) = false := by
    intro d hd
    cases fragment with
    | nil => cases hd
    | cons f fs =>
        obtain rfl : '#' = d := Option.some.inj hd
        rfl
  obtain ⟨ht, hd⟩ := takeWhile_append_stop hall hstop
  refine ⟨ht, ?_⟩
  rw [fragmentOf, remainder, hd]
  cases fragment <;> rfl

/-- **The parts of a remainder** are those that it is written from. -/
theorem parts_remainder {path query : List Char} (hp : IsPath path) (hq : '#' ∉ query)
    (fragment : List Char) :
    pathOf (remainder path query fragment) = path
      ∧ queryOf (remainder path query fragment) = query
      ∧ fragmentOf (remainder path query fragment) = fragment := by
  obtain ⟨hb, hf⟩ := beforeFragment_remainder hp hq fragment
  have hall : ∀ c ∈ path, (!decide (c = '?')) = true := by
    intro c hc
    rw [Bool.not_eq_true', decide_eq_false_iff_not]
    rintro rfl
    exact hp.unmarked.1 hc
  have hstop : ∀ d ∈ (if query.isEmpty then [] else '?' :: query).head?,
      (!decide (d = '?')) = false := by
    intro d hd
    cases query with
    | nil => cases hd
    | cons q qs =>
        obtain rfl : '?' = d := Option.some.inj hd
        rfl
  obtain ⟨ht, hd⟩ := takeWhile_append_stop hall hstop
  refine ⟨by rw [pathOf, hb, ht], ?_, hf⟩
  rw [queryOf, hb, hd]
  cases query <;> rfl

/-- A remainder written again from its parts. -/
def rewritten (rest : List Char) : List Char :=
  remainder (pathOf rest) (queryOf rest) (fragmentOf rest)

theorem IsRemainder.rewritten {rest : List Char} (h : IsRemainder rest) :
    IsRemainder (Url.rewritten rest) where
  plain := by
    intro c hc
    have hpart : ∀ {d}, d ∈ pathOf rest ∨ d ∈ queryOf rest ∨ d ∈ fragmentOf rest →
        isPlain d = true := fun hd => h.plain _ (mem_of_mem_parts hd)
    rw [Url.rewritten, remainder, List.mem_append, List.mem_append] at hc
    rcases hc with (hc | hc) | hc
    · exact hpart (.inl hc)
    · split at hc
      · cases hc
      · rcases List.mem_cons.mp hc with rfl | hc
        · rfl
        · exact hpart (.inr (.inl hc))
    · split at hc
      · cases hc
      · rcases List.mem_cons.mp hc with rfl | hc
        · rfl
        · exact hpart (.inr (.inr hc))
  start := by
    intro c hc
    rw [Url.rewritten, remainder] at hc
    rcases (isPath_pathOf h).slash with hp | ⟨ds, hp⟩
    · rw [hp] at hc
      revert hc
      cases queryOf rest with
      | cons q qs =>
          intro hc
          obtain rfl : '?' = c := Option.some.inj hc
          rfl
      | nil =>
          cases fragmentOf rest with
          | cons f fs =>
              intro hc
              obtain rfl : '#' = c := Option.some.inj hc
              rfl
          | nil => exact fun hc => by cases hc
    · rw [hp] at hc
      obtain rfl : '/' = c := Option.some.inj hc
      rfl

theorem parts_rewritten {rest : List Char} (h : IsRemainder rest) :
    pathOf (rewritten rest) = pathOf rest ∧ queryOf (rewritten rest) = queryOf rest
      ∧ fragmentOf (rewritten rest) = fragmentOf rest :=
  parts_remainder (isPath_pathOf h) (hash_not_mem_queryOf rest) (fragmentOf rest)

/-! ### Taking apart -/

/-- A scheme, an authority and a remainder, one after another. -/
def assemble (scheme authority rest : List Char) : String :=
  String.ofList (scheme ++ ':' :: '/' :: '/' :: (authority ++ rest))

variable {scheme authority rest : List Char}

theorem splitScheme_append (hs : IsScheme scheme) (cs : List Char) :
    splitScheme (scheme ++ ':' :: cs) = (scheme.map Text.lowerChar, cs) := by
  have hbreak : breakAt (· = ':') (scheme ++ ':' :: cs) = some (scheme, cs) :=
    breakAt_append (fun c hc => decide_eq_false (isSchemeChar_isPlain (hs.chars c hc)).2) rfl
  obtain ⟨s, ss, rfl, hl⟩ := hs.letter
  rw [splitScheme, hbreak]
  have hall : (s :: ss).all isSchemeChar = true := List.all_eq_true.mpr hs.chars
  simp only [hl, hall, Bool.and_self, if_true]

theorem splitAuthority_append (ha : ∀ c ∈ authority, isAuthorityChar c = true)
    (hr : IsRemainder rest) :
    splitAuthority ('/' :: '/' :: (authority ++ rest)) = (authority, rest) := by
  have hall : ∀ c ∈ authority, (!endsAuthority c) = true := fun c hc => by
    rw [(isAuthorityChar_iff.mp (ha c hc)).2.1]
    rfl
  have hstop : ∀ d ∈ rest.head?, (!endsAuthority d) = false := fun d hd => by
    rw [hr.start d hd]
    rfl
  obtain ⟨ht, hd⟩ := takeWhile_append_stop hall hstop
  rw [splitAuthority, ht, hd]

/-- Nothing is found wrong with an authority of printable ASCII without brackets. -/
theorem no_authorityFault (ha : ∀ c ∈ authority, isAuthorityChar c = true) :
    authorityFault? authority = none ∧ foldingFault? authority = none := by
  have hopen : authority.contains '[' = false := by
    rw [Bool.eq_false_iff]
    intro hm
    exact (isAuthorityChar_iff.mp (ha _ (List.contains_iff_mem.mp hm))).2.2.1 rfl
  have hclose : authority.contains ']' = false := by
    rw [Bool.eq_false_iff]
    intro hm
    exact (isAuthorityChar_iff.mp (ha _ (List.contains_iff_mem.mp hm))).2.2.2 rfl
  refine ⟨?_, ?_⟩
  · rw [authorityFault?, hopen, hclose]
    rfl
  · have hfold : authority.any (fun c => foldedSeparators.contains c.toNat) = false := by
      rw [List.any_eq_false]
      intro c hc hm
      have hplain := (isAuthorityChar_iff.mp (ha c hc)).1
      have hlarge : ∀ n ∈ foldedSeparators, 0x7E < n := by decide
      have hn := hlarge _ (List.contains_iff_mem.mp hm)
      simp only [isPlain, Bool.and_eq_true, decide_eq_true_eq] at hplain
      omega
    rw [foldingFault?, hfold]
    rfl

/-- **A URL is taken apart** into the scheme in lower case, the authority, and the parts of the
remainder. -/
theorem split_assemble (hs : IsScheme scheme) (ha : ∀ c ∈ authority, isAuthorityChar c = true)
    (hr : IsRemainder rest) :
    split (assemble scheme authority rest) =
      .ok ⟨String.ofList (scheme.map Text.lowerChar), String.ofList authority,
        String.ofList (pathOf rest), String.ofList (queryOf rest),
        String.ofList (fragmentOf rest)⟩ := by
  have hplain : ∀ c ∈ scheme ++ ':' :: '/' :: '/' :: (authority ++ rest), isPlain c = true := by
    intro c hc
    simp only [List.mem_append, List.mem_cons] at hc
    rcases hc with hc | rfl | rfl | rfl | hc | hc
    · exact (isSchemeChar_isPlain (hs.chars c hc)).1
    · rfl
    · rfl
    · rfl
    · exact (isAuthorityChar_iff.mp (ha c hc)).1
    · exact hr.plain c hc
  have hdrop : (scheme ++ ':' :: '/' :: '/' :: (authority ++ rest)).dropWhile
      (fun c => c.toNat ≤ 0x20) = scheme ++ ':' :: '/' :: '/' :: (authority ++ rest) := by
    obtain ⟨s, ss, rfl, hl⟩ := hs.letter
    refine List.dropWhile_cons_of_neg ?_
    have hlarge : ∀ n < 128, isSchemeChar (Char.ofNat n) = true →
        ¬ decide ((Char.ofNat n).toNat ≤ 0x20) = true := by decide +kernel
    exact of_isSchemeChar (P := fun c => ¬ decide (c.toNat ≤ 0x20) = true) hlarge
      (hs.chars s List.mem_cons_self)
  have hfilter : (scheme ++ ':' :: '/' :: '/' :: (authority ++ rest)).filter
      (fun c => !(c = '\t' || c = '\r' || c = '\n')) =
        scheme ++ ':' :: '/' :: '/' :: (authority ++ rest) := by
    rw [List.filter_eq_self]
    intro c hc
    have hp := hplain c hc
    simp only [isPlain, Bool.and_eq_true, decide_eq_true_eq] at hp
    have hne : ∀ d : Char, d.toNat < 0x20 → decide (c = d) = false := by
      intro d hd
      refine decide_eq_false ?_
      rintro rfl
      omega
    rw [hne _ (by decide), hne _ (by decide), hne _ (by decide)]
    rfl
  obtain ⟨hfault, hfold⟩ := no_authorityFault ha
  unfold split assemble
  simp only [String.toList_ofList, hdrop, hfilter, splitScheme_append hs,
    splitAuthority_append ha hr, hfault, hfold, breakAt_getD]
  rfl

/-! ### Putting together -/

/-- **A URL is put together** from its parts as they are found, but for the marks of an empty query
or fragment. -/
theorem join_parts (hs : scheme ≠ []) (ha : authority ≠ []) (hr : IsRemainder rest) :
    join ⟨String.ofList scheme, String.ofList authority, String.ofList (pathOf rest),
        String.ofList (queryOf rest), String.ofList (fragmentOf rest)⟩ =
      assemble scheme authority (rewritten rest) := by
  have hempty : ∀ cs : List Char, (String.ofList cs).isEmpty = cs.isEmpty := by
    intro cs
    rw [Bool.eq_iff_iff, String.isEmpty_iff, List.isEmpty_iff]
    exact ⟨fun h => String.ofList_injective h, fun h => by rw [h]⟩
  have hpath : ((pathOf rest).isEmpty || (String.ofList (pathOf rest)).startsWith "/") = true := by
    rw [Bool.or_eq_true]
    rcases (isPath_pathOf hr).slash with hp | ⟨ds, hp⟩
    · exact .inl (by rw [hp]; rfl)
    · refine .inr (String.startsWith_string_iff.mpr ?_)
      rw [hp, String.toList_ofList (l := '/' :: ds)]
      exact ⟨ds, rfl⟩
  have hs' : scheme.isEmpty = false := by cases scheme with
    | nil => exact absurd rfl hs
    | cons s ss => rfl
  have ha' : authority.isEmpty = false := by cases authority with
    | nil => exact absurd rfl ha
    | cons s ss => rfl
  rw [← String.toList_inj]
  simp only [join, isSlashed, hempty, hs', ha', hpath, Bool.not_false, Bool.true_or,
    Bool.false_eq_true, if_false, if_true]
  simp only [String.toList_append, String.toList_ofList, assemble, rewritten, remainder]
  cases queryOf rest <;> cases fragmentOf rest <;> simp

end FleetHealth.Url
