import FleetHealth.Proofs.Text.Split
import FleetHealth.Proofs.Url.Redaction

/-!
# Proofs — URL — Query

What a query is to the other parts of a URL, and to settings on display.  Everything here follows from one equation, `split_query`: a text without the marks of a query and a fragment is taken apart in the same way whatever query comes after it.

* `mem_parameters`: a parameter that stands between two ampersands is one of its query.
* `query_password_shown`: the password is masked in the user information and nowhere else, so a password that is a parameter of the query is displayed.
-/

namespace FleetHealth

namespace Url

/-! ### Taking apart before a query -/

/-- Where a character that stops the search comes after a text, nothing after it is reached. -/
theorem span_append_cons {p : Char → Bool} {d : Char} (hd : p d = false) (cs ds : List Char) :
    (cs ++ d :: ds).takeWhile p = cs.takeWhile p
      ∧ (cs ++ d :: ds).dropWhile p = cs.dropWhile p ++ d :: ds := by
  induction cs with
  | nil =>
      have hstop : ¬ p d = true := by rw [hd]; exact Bool.false_ne_true
      exact ⟨List.takeWhile_cons_of_neg hstop, List.dropWhile_cons_of_neg hstop⟩
  | cons c cs ih =>
      rw [List.cons_append, List.takeWhile_cons, List.dropWhile_cons, List.takeWhile_cons,
        List.dropWhile_cons]
      split
      · exact ⟨congrArg (c :: ·) ih.1, ih.2⟩
      · exact ⟨rfl, rfl⟩

/-- A text without the tabs and line ends in it. -/
def unbroken (cs : List Char) : List Char := cs.filter fun c => !(c = '\t' || c = '\r' || c = '\n')

/-- A text as it is taken apart: without the controls and spaces before it, and unbroken. -/
def cleaned (cs : List Char) : List Char := unbroken (cs.dropWhile fun c => c.toNat ≤ 0x20)

theorem cleaned_query (head qs : List Char) :
    cleaned (head ++ '?' :: qs) = cleaned head ++ '?' :: unbroken qs := by
  have hdrop := (span_append_cons (p := fun c => decide (c.toNat ≤ 0x20)) (d := '?') (by decide)
    head qs).2
  rw [cleaned, hdrop, unbroken, List.filter_append, List.filter_cons_of_pos (by decide)]
  rfl

/-- A text is broken after what does not break it. -/
theorem breakAt_append_none {p : Char → Bool} {cs : List Char} (h : ∀ c ∈ cs, p c = false)
    (ds : List Char) : breakAt p (cs ++ ds) = (breakAt p ds).map (Prod.map (cs ++ ·) id) := by
  have hall : ∀ c ∈ cs, (!p c) = true := fun c hc => by rw [h c hc]; rfl
  rw [breakAt, breakAt, List.dropWhile_append_of_pos hall, List.takeWhile_append_of_pos hall]
  cases ds.dropWhile fun c => !p c <;> rfl

theorem breakAt_eq_none {p : Char → Bool} {cs : List Char} (h : ∀ c ∈ cs, p c = false) :
    breakAt p cs = none := by
  have hnone := breakAt_append_none h []
  rwa [List.append_nil] at hnone

theorem breakAt_suffix {p : Char → Bool} {cs before after : List Char}
    (h : breakAt p cs = some (before, after)) : after <:+ cs := by
  have hdrop := List.dropWhile_suffix (l := cs) fun c => !p c
  unfold breakAt at h
  split at h
  · cases h
  · next c rest hc =>
      obtain ⟨-, rfl⟩ := Prod.mk.inj (Option.some.inj h)
      rw [hc] at hdrop
      exact (List.suffix_cons c _).trans hdrop

/-- Where a character that is none of a scheme comes before the colon, there is no scheme. -/
theorem splitScheme_of_not {cs before after : List Char}
    (h : breakAt (· = ':') cs = some (before, after)) {c : Char} (hc : c ∈ before)
    (hno : isSchemeChar c = false) : splitScheme cs = ([], cs) := by
  have hall : before.all isSchemeChar = false := List.all_eq_false.mpr
    ⟨c, hc, by rw [hno]; exact Bool.false_ne_true⟩
  rw [splitScheme, h]
  cases before with
  | nil => rfl
  | cons s ss => simp only [hall, Bool.and_false, Bool.false_eq_true, if_false]

theorem splitScheme_query (cs qs : List Char) :
    splitScheme (cs ++ '?' :: qs) = ((splitScheme cs).1, (splitScheme cs).2 ++ '?' :: qs) := by
  by_cases hc : ':' ∈ cs
  · obtain ⟨before, after, rfl, hno⟩ := List.eq_append_cons_of_mem hc
    have hbreak : ∀ ds, breakAt (· = ':') (before ++ ':' :: ds) = some (before, ds) := fun ds =>
      breakAt_append (fun c hm => decide_eq_false (ne_of_mem_of_not_mem hm hno)) rfl
    rw [List.append_assoc, List.cons_append, splitScheme, splitScheme, hbreak, hbreak]
    cases before with
    | nil => simp
    | cons s ss =>
        dsimp only
        split
        · rfl
        · simp
  · have hno : ∀ c ∈ cs, decide (c = ':') = false := fun c hm =>
      decide_eq_false (ne_of_mem_of_not_mem hm hc)
    have hself : splitScheme cs = ([], cs) := by rw [splitScheme, breakAt_eq_none hno]
    -- a colon can only come after the question mark, which is no character of a scheme
    have hquery : breakAt (· = ':') (cs ++ '?' :: qs) =
        (breakAt (· = ':') qs).map (Prod.map (cs ++ ['?'] ++ ·) id) := by
      rw [← breakAt_append_none, List.append_assoc]
      · rfl
      · intro c hm
        rcases List.mem_append.mp hm with hm | hm
        · exact hno c hm
        · obtain rfl := List.mem_singleton.mp hm
          rfl
    rw [hself]
    cases hq : breakAt (· = ':') qs with
    | none => rw [splitScheme, hquery, hq, Option.map_none]
    | some parts =>
        rw [hq, Option.map_some] at hquery
        exact splitScheme_of_not hquery (c := '?') (by simp) (by decide)

theorem splitAuthority_of_not {cs : List Char} (h : ∀ ds, cs ≠ '/' :: '/' :: ds) :
    splitAuthority cs = ([], cs) := by
  unfold splitAuthority
  split
  · exact absurd rfl (h _)
  · rfl

theorem splitAuthority_query (cs qs : List Char) :
    splitAuthority (cs ++ '?' :: qs) =
      ((splitAuthority cs).1, (splitAuthority cs).2 ++ '?' :: qs) := by
  by_cases h : ∃ ds, cs = '/' :: '/' :: ds
  · obtain ⟨ds, rfl⟩ := h
    obtain ⟨ht, hd⟩ := span_append_cons (p := fun c => !endsAuthority c) (d := '?') (by decide) ds qs
    exact Prod.ext ht hd
  · have hcs : ∀ ds, cs ≠ '/' :: '/' :: ds := fun ds he => h ⟨ds, he⟩
    have hquery : ∀ ds, cs ++ '?' :: qs ≠ '/' :: '/' :: ds := by
      intro ds he
      match cs with
      | [] => cases he
      | [c] => cases he
      | c :: d :: cs =>
          obtain ⟨rfl, hrest⟩ := List.cons.inj he
          obtain ⟨rfl, -⟩ := List.cons.inj hrest
          exact h ⟨cs, rfl⟩
    rw [splitAuthority_of_not hcs, splitAuthority_of_not hquery]

/-- What is left to take apart is the end of the text. -/
theorem splitScheme_suffix (cs : List Char) : (splitScheme cs).2 <:+ cs := by
  unfold splitScheme
  split
  · next s ss rest h =>
      split
      · exact breakAt_suffix h
      · exact List.suffix_rfl
  · exact List.suffix_rfl

theorem splitAuthority_suffix (cs : List Char) : (splitAuthority cs).2 <:+ cs := by
  unfold splitAuthority
  split
  · next ds =>
      exact ((List.dropWhile_suffix _).trans (List.suffix_cons _ _)).trans (List.suffix_cons _ _)
  · exact List.suffix_rfl

/-- A path without a query and a fragment. -/
theorem split_rest {cs : List Char} (hq : '?' ∉ cs) (hh : '#' ∉ cs) (qs : List Char) :
    (breakAt (· = '#') cs).getD (cs, []) = (cs, [])
      ∧ (breakAt (· = '?') cs).getD (cs, []) = (cs, [])
      ∧ (breakAt (· = '#') (cs ++ '?' :: qs)).getD (cs ++ '?' :: qs, []) =
        (cs ++ '?' :: beforeFragment qs, fragmentOf qs)
      ∧ ∀ ds, (breakAt (· = '?') (cs ++ '?' :: ds)).getD (cs ++ '?' :: ds, []) = (cs, ds) := by
  have hnoHash : ∀ c ∈ cs, decide (c = '#') = false := fun c hm =>
    decide_eq_false (ne_of_mem_of_not_mem hm hh)
  have hnoMark : ∀ c ∈ cs, decide (c = '?') = false := fun c hm =>
    decide_eq_false (ne_of_mem_of_not_mem hm hq)
  refine ⟨?_, ?_, ?_, fun ds => ?_⟩
  · rw [breakAt_eq_none hnoHash, Option.getD_none]
  · rw [breakAt_eq_none hnoMark, Option.getD_none]
  · have hall : ∀ c ∈ cs, (!decide (c = '#')) = true := fun c hm => by rw [hnoHash c hm]; rfl
    rw [breakAt_getD, List.takeWhile_append_of_pos hall, List.dropWhile_append_of_pos hall]
    rfl
  · rw [breakAt_append hnoMark (decide_eq_true rfl), Option.getD_some]

/-- **Taking a text apart before its query**: the query changes nothing but the query and the
fragment. -/
theorem split_query {head : List Char} (hq : '?' ∉ head) (hh : '#' ∉ head) (qs : List Char) :
    split (String.ofList (head ++ '?' :: qs)) =
      (split (String.ofList head)).map fun u =>
        { u with
          query := String.ofList (beforeFragment (unbroken qs))
          fragment := String.ofList (fragmentOf (unbroken qs)) } := by
  have hclean : ∀ cs : List Char, (cs.dropWhile fun c => c.toNat ≤ 0x20).filter
      (fun c => !(c = '\t' || c = '\r' || c = '\n')) = cleaned cs := fun _ => rfl
  have hrest : (splitAuthority (splitScheme (cleaned head)).2).2 <:+ cleaned head :=
    (splitAuthority_suffix _).trans (splitScheme_suffix _)
  have hmem : ∀ {c}, c ∈ (splitAuthority (splitScheme (cleaned head)).2).2 → c ∈ head := fun hc =>
    (List.dropWhile_suffix _).subset (List.mem_filter.mp (hrest.subset hc)).1
  obtain ⟨h₁, h₂, h₃, h₄⟩ := split_rest (mt hmem hq) (mt hmem hh) (unbroken qs)
  unfold split
  simp only [String.toList_ofList, hclean, cleaned_query, splitScheme_query, splitAuthority_query,
    h₁, h₂, h₃, h₄]
  cases authorityFault? (splitAuthority (splitScheme (cleaned head)).2).1 with
  | some e => rfl
  | none =>
      cases foldingFault? (splitAuthority (splitScheme (cleaned head)).2).1 with
      | some e => rfl
      | none => rfl

/-! ### Parameters -/

/-- The parameters of a query, names and values as they are written. -/
def parameters (query : List Char) : List (List Char × List Char) :=
  (Text.splitChars '&' query).filterMap (breakAt (· = '='))

/-- **A parameter between two ampersands**, or at an end, is one of its query. -/
theorem mem_parameters {before name value after : List Char}
    (hbefore : before = [] ∨ ∃ cs, before = cs ++ ['&'])
    (hafter : after = [] ∨ ∃ cs, after = '&' :: cs)
    (hname : '=' ∉ name) (hfree : '&' ∉ name ++ '=' :: value) :
    (name, value) ∈ parameters (before ++ (name ++ '=' :: value) ++ after) := by
  have hbreak : breakAt (· = '=') (name ++ '=' :: value) = some (name, value) :=
    breakAt_append (fun c hm => decide_eq_false (ne_of_mem_of_not_mem hm hname)) rfl
  exact List.mem_filterMap.mpr ⟨_, Text.mem_splitChars hbefore hafter hfree, hbreak⟩

/-- The address of a database but for a password that is a parameter of its query. -/
structure QuerySite where
  head : List Char
  before : List Char
  after : List Char
  noMark : '?' ∉ head
  noHash : '#' ∉ head ++ before
  opens : before = [] ∨ ∃ cs, before = cs ++ ['&']
  closes : after = [] ∨ ∃ cs, after = '&' :: cs ∨ after = '#' :: cs

/-- A character that stands in the value of a parameter: none that ends it, or that is dropped from a
text before it is taken apart. -/
def isValueChar (c : Char) : Bool :=
  !(c = '&' || c = '#' || c = '\t' || c = '\r' || c = '\n')

namespace QuerySite

/-- The query and what follows it, with a password. -/
def query (s : QuerySite) (password : List Char) : List Char :=
  s.before ++ ("password".toList ++ '=' :: password) ++ s.after

/-- The address with a password. -/
def text (s : QuerySite) (password : List Char) : String :=
  String.ofList (s.head ++ '?' :: s.query password)

theorem text_inj (s : QuerySite) {p q : List Char} : s.text p = s.text q ↔ p = q := by
  refine ⟨fun h => ?_, fun h => by rw [h]⟩
  have hquery := List.append_cancel_left (String.ofList_injective h)
  have htail := List.append_cancel_right (List.cons.inj hquery).2
  exact (List.cons.inj (List.append_cancel_left (List.append_cancel_left htail))).2

/-- The address is taken apart as it is without a query, whatever the password. -/
theorem split_text (s : QuerySite) (p : List Char) :
    split (s.text p) = (split (String.ofList s.head)).map fun u =>
      { u with
        query := String.ofList (beforeFragment (unbroken (s.query p)))
        fragment := String.ofList (fragmentOf (unbroken (s.query p))) } :=
  split_query s.noMark (fun h => s.noHash (List.mem_append_left _ h)) (s.query p)

/-- **The password is a parameter of the query.** -/
theorem password_mem (s : QuerySite) {p : List Char} (hp : ∀ c ∈ p, isValueChar c = true) :
    ("password".toList, p) ∈ parameters (beforeFragment (unbroken (s.query p))) := by
  -- what stands between the two ends has no mark of its own, and nothing in it is dropped
  have hvalue : ∀ c ∈ "password".toList ++ '=' :: p, isValueChar c = true := by
    intro c hc
    rcases List.mem_append.mp hc with hc | hc
    · exact List.all_eq_true.mp (by decide) c hc
    · rcases List.mem_cons.mp hc with rfl | hc
      · rfl
      · exact hp c hc
  have hchar : ∀ {c}, isValueChar c = true →
      c ≠ '&' ∧ c ≠ '#' ∧ (!(c = '\t' || c = '\r' || c = '\n')) = true := by
    intro c hc
    simpa [isValueChar, and_assoc] using hc
  have hkept : unbroken ("password".toList ++ '=' :: p) = "password".toList ++ '=' :: p :=
    List.filter_eq_self.mpr fun c hc => (hchar (hvalue c hc)).2.2
  have hbefore : ∀ c ∈ unbroken s.before ++ ("password".toList ++ '=' :: p),
      (!decide (c = '#')) = true := by
    intro c hc
    rw [Bool.not_eq_true', decide_eq_false_iff_not]
    rcases List.mem_append.mp hc with hc | hc
    · rintro rfl
      exact s.noHash (List.mem_append_right _ (List.mem_filter.mp hc).1)
    · exact (hchar (hvalue c hc)).2.1
  have hquery : beforeFragment (unbroken (s.query p)) =
      unbroken s.before ++ ("password".toList ++ '=' :: p) ++ beforeFragment (unbroken s.after) := by
    rw [query, unbroken, List.filter_append, List.filter_append, ← unbroken, ← unbroken,
      ← unbroken, hkept, beforeFragment, List.takeWhile_append_of_pos hbefore, ← beforeFragment]
  rw [hquery]
  refine mem_parameters ?_ ?_ (by decide) fun hm => (hchar (hvalue _ hm)).1 rfl
  · rcases s.opens with h | ⟨cs, h⟩
    · exact .inl (by rw [h]; rfl)
    · refine .inr ⟨unbroken cs, ?_⟩
      rw [h, unbroken, List.filter_append]
      rfl
  · rcases s.closes with h | ⟨cs, h | h⟩
    · exact .inl (by rw [h]; rfl)
    · exact .inr ⟨beforeFragment (unbroken cs), by rw [h]; rfl⟩
    · exact .inl (by rw [h]; rfl)

end QuerySite

end Url

namespace Config

open Url (QuerySite isValueChar)

/-- **A password in the query is displayed.**  Where an address with a password as a parameter of its
query cannot be taken apart, the settings on display are the same for any other password.  Where it can,
and holds no password in its user information, the address is displayed as it is, its password with it;
so two passwords look the same only if they are the same. -/
theorem query_password_shown (c : Config) (s : QuerySite) (p q : List Char)
    (hp : ∀ c ∈ p, isValueChar c = true) :
    (∀ e, Url.split (s.text p) = .error e →
        (c.withDatabase (s.text p)).redacted = (c.withDatabase (s.text q)).redacted)
    ∧ ∀ u, Url.split (s.text p) = .ok u →
        (∀ w, Url.password? u.authority.toList = some w → w = []) →
        ("password".toList, p) ∈ Url.parameters u.query.toList
        ∧ (∃ out, (c.withDatabase (s.text p)).redacted = .ok out
          ∧ Entries.get? "database_url" out = some (.text (s.text p)))
        ∧ ((c.withDatabase (s.text p)).redacted = (c.withDatabase (s.text q)).redacted ↔ p = q) := by
  have hp' := s.split_text p
  have hq' := s.split_text q
  cases hhead : Url.split (String.ofList s.head) with
  | error e =>
      rw [hhead] at hp' hq'
      refine ⟨fun _ _ => c.redacted_congr ?_, fun u hu => ?_⟩
      · rw [Url.redact, Url.redact, hp', hq']
        rfl
      · cases hp'.symm.trans hu
  | ok u₀ =>
      rw [hhead] at hp' hq'
      refine ⟨fun e he => ?_, fun u hu hnone => ?_⟩
      · cases hp'.symm.trans he
      · obtain rfl := Except.ok.inj (hp'.symm.trans hu)
        obtain ⟨out, hout, hurl⟩ := c.redacted_database (Url.redact_of_no_password hp' hnone)
        obtain ⟨out', hout', hurl'⟩ := c.redacted_database (Url.redact_of_no_password hq' hnone)
        refine ⟨?_, ⟨out, hout, hurl⟩, fun h => ?_, fun h => by rw [h]⟩
        · rw [String.toList_ofList]
          exact s.password_mem hp
        · obtain rfl := Except.ok.inj (hout.symm.trans (h.trans hout'))
          exact s.text_inj.mp (Datum.text.inj (Option.some.inj (hurl.symm.trans hurl')))

/-- An address with a password after another parameter and before a fragment. -/
def someQuerySite : QuerySite where
  head := "postgresql://reporter@db/fleet".toList
  before := "sslmode=require&".toList
  after := "#main".toList
  noMark := by decide
  noHash := by decide
  opens := .inr ⟨"sslmode=require".toList, rfl⟩
  closes := .inr ⟨"main".toList, .inr rfl⟩

/-- Under the default settings two passwords in a query do not look the same. -/
theorem query_password_of_defaults : ∃ c u, Config.read [] = .ok c
    ∧ (∀ c ∈ "hunter2".toList, isValueChar c = true)
    ∧ Url.split (someQuerySite.text "hunter2".toList) = .ok u
    ∧ (∀ w, Url.password? u.authority.toList = some w → w = [])
    ∧ (∃ out, (c.withDatabase (someQuerySite.text "hunter2".toList)).redacted = .ok out
      ∧ Entries.get? "database_url" out = some (.text (someQuerySite.text "hunter2".toList)))
    ∧ (c.withDatabase (someQuerySite.text "hunter2".toList)).redacted ≠
      (c.withDatabase (someQuerySite.text "swordfish".toList)).redacted := by
  have hvalue : ∀ c ∈ "hunter2".toList, isValueChar c = true := List.all_eq_true.mp (by decide)
  have hsplit : Url.split (someQuerySite.text "hunter2".toList) =
      .ok ⟨"postgresql", "reporter@db", "/fleet", "sslmode=require&password=hunter2", "main"⟩ := rfl
  have hnone : ∀ w, Url.password? "reporter@db".toList = some w → w = [] := fun w hw => nomatch hw
  refine ⟨_, _, rfl, hvalue, hsplit, hnone, ?_⟩
  obtain ⟨-, hshown, hsame⟩ := (query_password_shown _ someQuerySite "hunter2".toList
    "swordfish".toList hvalue).2 _ hsplit hnone
  exact ⟨hshown, fun h => absurd (hsame.mp h) (by decide)⟩

/-- Settings on display tell apart two passwords in the query of an address without user information. -/
theorem query_passwords_told_apart : ∃ c u u',
    Config.read [("SYNCWATCH_DATABASE_URL", "postgresql://db/fleet?password=hunter2")] = .ok c
    ∧ Url.split c.databaseUrl = .ok u
    ∧ Url.split "postgresql://db/fleet?password=swordfish" = .ok u'
    ∧ Url.password? u.authority.toList = none ∧ Url.password? u'.authority.toList = none
    ∧ Url.parameters u.query.toList = [("password".toList, "hunter2".toList)]
    ∧ Url.parameters u'.query.toList = [("password".toList, "swordfish".toList)]
    ∧ c.redacted ≠ (c.withDatabase "postgresql://db/fleet?password=swordfish").redacted := by
  have hsplit : Url.split "postgresql://db/fleet?password=hunter2" =
      .ok ⟨"postgresql", "db", "/fleet", "password=hunter2", ""⟩ := rfl
  have hsplit' : Url.split "postgresql://db/fleet?password=swordfish" =
      .ok ⟨"postgresql", "db", "/fleet", "password=swordfish", ""⟩ := rfl
  refine ⟨_, _, _, rfl, hsplit, hsplit', rfl, rfl, by decide, by decide, fun h => ?_⟩
  have hurl := congrArg (fun r => (r.toOption.bind fun out => Entries.get? "database_url" out)) h
  have htext : "postgresql://db/fleet?password=hunter2" = "postgresql://db/fleet?password=swordfish" :=
    Datum.text.inj (Option.some.inj hurl)
  exact absurd htext (by decide)

end Config
end FleetHealth
