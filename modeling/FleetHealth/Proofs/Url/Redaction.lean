import FleetHealth.Config.Basic
import FleetHealth.Proofs.Entries
import FleetHealth.Proofs.Url.Parts

/-!
# Proofs — URL — Redaction

Settings on display say nothing of the database password but that there is one.  A `Site` is the address of a database but for the password, and `Site.text` is the address with one.

The password is masked by replacing text in the authority, not by parsing.  That goes right because the user name holds no colon, so the first colon is the one before the password, and the host holds no at sign, so nothing after the password can be taken for it (`maskAuthority_authority`).  The password itself may hold both.

* `redact_text`: what is shown of an address does not depend on the password.
* `redacted_masks` is the account of the settings on display: any two passwords look the same, all else of the address is there, and an address without a password is shown as it is.
-/

namespace FleetHealth.Url

/-! ### The parts of an authority -/

/-- The user name in the user information of an authority. -/
def userName? (authority : List Char) : Option (List Char) :=
  (beforeLast? '@' authority).map fun info => info.takeWhile (· ≠ ':')

/-- The host part of an authority. -/
def hostPart (authority : List Char) : List Char := afterLast '@' authority

theorem last_append {c : Char} {host : List Char} (h : c ∉ host) (cs : List Char) :
    beforeLast? c (cs ++ c :: host) = some cs ∧ afterLast c (cs ++ c :: host) = host := by
  have hrev : (cs ++ c :: host).reverse = host.reverse ++ c :: cs.reverse := by simp
  have hall : ∀ d ∈ host.reverse, decide (d ≠ c) = true := fun d hd =>
    decide_eq_true fun he => h (he ▸ List.mem_reverse.mp hd)
  have hstop : ∀ d ∈ (c :: cs.reverse).head?, decide (d ≠ c) = false := fun d hd => by
    obtain rfl : c = d := Option.some.inj hd
    exact decide_eq_false fun hne => hne rfl
  obtain ⟨ht, hd⟩ := takeWhile_append_stop hall hstop
  refine ⟨?_, ?_⟩
  · rw [beforeLast?, hrev, hd]
    exact congrArg some (List.reverse_reverse cs)
  · rw [afterLast, hrev, ht, List.reverse_reverse]

/-- The user information of an authority, a user name and a password, and its host. -/
def credentials (user password host : List Char) : List Char :=
  user ++ ':' :: password ++ '@' :: host

/-- **The user information is found again**: the host has no at sign and the user name no colon. -/
theorem credentials_parts {user host : List Char} (hu : ':' ∉ user) (hh : '@' ∉ host)
    (password : List Char) :
    userName? (credentials user password host) = some user
      ∧ password? (credentials user password host) = some password
      ∧ hostPart (credentials user password host) = host := by
  obtain ⟨hb, ha⟩ := last_append hh (user ++ ':' :: password)
  have hb : beforeLast? '@' (credentials user password host) = some (user ++ ':' :: password) := hb
  refine ⟨?_, ?_, ha⟩
  · have hall : ∀ d ∈ user, decide (d ≠ ':') = true := fun d hd =>
      decide_eq_true fun he => hu (he ▸ hd)
    have hstop : ∀ d ∈ (':' :: password).head?, decide (d ≠ ':') = false := fun d hd => by
      obtain rfl : ':' = d := Option.some.inj hd
      rfl
    obtain ⟨ht, -⟩ := takeWhile_append_stop hall hstop
    rw [userName?, hb]
    exact congrArg some ht
  · have hbreak : breakAt (· = ':') (user ++ ':' :: password) = some (user, password) :=
      breakAt_append (fun c hc => decide_eq_false fun he => hu (he ▸ hc)) rfl
    rw [password?, hb]
    simp only [hbreak, Option.map_some]

/-! ### Replacing -/

theorem replaceAll_skip (pattern by_ cs ds : List Char) :
    replaceAll pattern by_ cs.length (cs ++ ds) = replaceAll pattern by_ 0 ds := by
  induction cs with
  | nil => rfl
  | cons c cs ih =>
      rw [List.length_cons, List.cons_append, replaceAll]
      exact ih

/-- Before the first character of the pattern nothing is replaced. -/
theorem replaceAll_append {d : Char} {cs : List Char} (h : d ∉ cs)
    (pattern by_ ds : List Char) :
    replaceAll (d :: pattern) by_ 0 (cs ++ ds) = cs ++ replaceAll (d :: pattern) by_ 0 ds := by
  induction cs with
  | nil => rfl
  | cons c cs ih =>
      have hne : (d == c) = false := beq_eq_false_iff_ne.mpr fun he => h (he ▸ List.mem_cons_self)
      rw [List.cons_append, replaceAll, List.isPrefixOf, hne, Bool.false_and,
        if_neg Bool.false_ne_true, ih fun hm => h (List.mem_cons_of_mem c hm)]
      rfl

/-- Where a character of the pattern does not occur, nothing is replaced. -/
theorem replaceAll_of_not_mem {d : Char} {pattern cs : List Char} (hd : d ∈ pattern) (h : d ∉ cs)
    (by_ : List Char) : replaceAll pattern by_ 0 cs = cs := by
  induction cs with
  | nil => rfl
  | cons c cs ih =>
      have hno : ¬ pattern.isPrefixOf (c :: cs) = true := fun hp =>
        h ((List.isPrefixOf_iff_prefix.mp hp).subset hd)
      rw [replaceAll, if_neg hno, ih fun hm => h (List.mem_cons_of_mem c hm)]

/-- **Three stars take the place of the password**, and nothing else is replaced. -/
theorem maskAuthority_credentials {user host : List Char} (hu : ':' ∉ user) (hh : '@' ∉ host)
    (password : List Char) :
    maskAuthority password (credentials user password host) =
      credentials user ['*', '*', '*'] host := by
  have hprefix : (':' :: (password ++ ['@'])).isPrefixOf (':' :: (password ++ ['@'] ++ host)) = true :=
    List.isPrefixOf_iff_prefix.mpr ⟨host, rfl⟩
  have hlen : (':' :: (password ++ ['@'])).length - 1 = (password ++ ['@']).length := rfl
  have hshape : credentials user password host = user ++ ':' :: (password ++ ['@'] ++ host) := by
    simp [credentials]
  rw [maskAuthority, hshape, replaceAll_append hu, replaceAll, if_pos hprefix, hlen, replaceAll_skip,
    replaceAll_of_not_mem (d := '@') (by simp) hh]
  simp [credentials]

/-! ### Database addresses -/

/-- The address of a database but for the password: a scheme, a user name without a colon, a host part
without an at sign, and what follows. -/
structure Site where
  scheme : List Char
  user : List Char
  host : List Char
  rest : List Char
  isScheme : IsScheme scheme
  isRemainder : IsRemainder rest
  userChars : ∀ c ∈ user, isAuthorityChar c = true
  hostChars : ∀ c ∈ host, isAuthorityChar c = true
  noColon : ':' ∉ user
  noAt : '@' ∉ host

/-- A password that is not empty. -/
structure Password where
  chars : List Char
  isAuthority : ∀ c ∈ chars, isAuthorityChar c = true
  ne_nil : chars ≠ []

namespace Password

/-- Three stars. -/
def stars : Password := ⟨['*', '*', '*'], List.all_eq_true.mp (by decide), List.cons_ne_nil _ _⟩

end Password

namespace Site

/-- The authority with a password. -/
def authority (s : Site) (p : Password) : List Char := credentials s.user p.chars s.host

/-- The address with a password. -/
def text (s : Site) (p : Password) : String := assemble s.scheme (s.authority p) s.rest

/-- The address as it is shown, with a password: the scheme in lower case, and without the marks of
an empty query or fragment. -/
def shown (s : Site) (p : Password) : String :=
  assemble (s.scheme.map Text.lowerChar) (s.authority p) (rewritten s.rest)

/-- The parts of the address with a password. -/
def parts (s : Site) (p : Password) : Url :=
  ⟨String.ofList (s.scheme.map Text.lowerChar), String.ofList (s.authority p),
    String.ofList (pathOf s.rest), String.ofList (queryOf s.rest), String.ofList (fragmentOf s.rest)⟩

theorem authority_chars (s : Site) (p : Password) :
    ∀ c ∈ s.authority p, isAuthorityChar c = true := by
  intro c hc
  simp only [authority, credentials, List.mem_append, List.mem_cons] at hc
  rcases hc with (hc | rfl | hc) | rfl | hc
  · exact s.userChars c hc
  · rfl
  · exact p.isAuthority c hc
  · rfl
  · exact s.hostChars c hc

theorem authority_ne_nil (s : Site) (p : Password) : s.authority p ≠ [] := by
  simp [authority, credentials]

theorem split_text (s : Site) (p : Password) : split (s.text p) = .ok (s.parts p) :=
  split_assemble s.isScheme (s.authority_chars p) s.isRemainder

/-- What is shown has the parts of the address. -/
theorem split_shown (s : Site) (p : Password) : split (s.shown p) = .ok (s.parts p) := by
  obtain ⟨hp, hq, hf⟩ := parts_rewritten s.isRemainder
  have h := split_assemble s.isScheme.lower (s.authority_chars p) s.isRemainder.rewritten
  rw [hp, hq, hf, s.isScheme.lower_lower] at h
  exact h

/-- **What is shown of an address** is the address with three stars for a password. -/
theorem redact_text (s : Site) (p : Password) : redact (s.text p) = .ok (s.shown .stars) := by
  have hne : s.scheme.map Text.lowerChar ≠ [] := by
    obtain ⟨c, cs, hc, -⟩ := s.isScheme.letter
    rw [hc]
    exact List.cons_ne_nil _ _
  have hjoin := join_parts hne (s.authority_ne_nil .stars) s.isRemainder
  have hpassword : password? (s.authority p) = some p.chars :=
    (credentials_parts s.noColon s.noAt p.chars).2.1
  have hmask : maskAuthority p.chars (s.authority p) = s.authority .stars :=
    maskAuthority_credentials s.noColon s.noAt p.chars
  have hauthority : (s.parts p).authority.toList = s.authority p := String.toList_ofList
  obtain ⟨c, cs, hchars⟩ := List.exists_cons_of_ne_nil p.ne_nil
  rw [redact, s.split_text p]
  simp only [hauthority, hpassword, hchars]
  rw [← hchars, hmask]
  exact congrArg Except.ok hjoin

end Site

/-- A database address with a query and an empty fragment. -/
def someSite : Site where
  scheme := "PostgreSQL".toList
  user := "rep@orter".toList
  host := "db:5432".toList
  rest := "/fleet?sslmode=require#".toList
  isScheme := ⟨⟨'P', "ostgreSQL".toList, by decide, by decide⟩, List.all_eq_true.mp (by decide)⟩
  isRemainder := ⟨List.all_eq_true.mp (by decide), fun _ hc => Option.some.inj hc ▸ rfl⟩
  userChars := List.all_eq_true.mp (by decide)
  hostChars := List.all_eq_true.mp (by decide)
  noColon := by decide
  noAt := by decide

/-- A password that holds the separators of the user information. -/
def awkwardPassword : Password :=
  ⟨"p:@rep@orter:".toList, List.all_eq_true.mp (by decide), by decide⟩

/-- Colons and at signs in a password do not show. -/
example : redact (someSite.text awkwardPassword) =
    .ok "postgresql://rep@orter:***@db:5432/fleet?sslmode=require" :=
  (someSite.redact_text awkwardPassword).trans (congrArg Except.ok (by decide))

/-- An address in which no password is found, or an empty one, is shown as it is. -/
theorem redact_of_no_password {t : String} {u : Url} (h : split t = .ok u)
    (hp : ∀ w, password? u.authority.toList = some w → w = []) : redact t = .ok t := by
  rw [redact, h]
  dsimp only
  split
  · next c cs hw => cases hp _ hw
  · rfl

end Url

/-! ### Settings on display -/

namespace Config

/-- The settings with another database address. -/
def withDatabase (c : Config) (url : String) : Config := { c with databaseUrl := url }

/-- Of the address, only what is shown of it makes a difference on display. -/
theorem redacted_congr (c : Config) {url url' : String} (h : Url.redact url' = Url.redact url) :
    (c.withDatabase url').redacted = (c.withDatabase url).redacted := by
  unfold redacted
  rw [show (c.withDatabase url').databaseUrl = url' from rfl,
    show (c.withDatabase url).databaseUrl = url from rfl, h]
  rfl

/-- Where something is shown of the address, the settings are on display, and show that. -/
theorem redacted_database (c : Config) {url shown : String} (h : Url.redact url = .ok shown) :
    ∃ out, (c.withDatabase url).redacted = .ok out
      ∧ Entries.get? "database_url" out = some (.text shown) := by
  unfold redacted
  rw [show (c.withDatabase url).databaseUrl = url from rfl, h]
  exact ⟨_, rfl, rfl⟩

open Url (Site Password)

/-- **Settings on display do not tell the password.**  With one password or another in the address of
the database, all that is displayed is the same.  The address on display has three stars for a
password, and the scheme, user name, host part, path, query and fragment of the address itself.  An
address in which no password is found, or an empty one, is displayed as it is. -/
theorem redacted_masks (c : Config) (s : Site) (p q : Password) :
    (c.withDatabase (s.text p)).redacted = (c.withDatabase (s.text q)).redacted
    ∧ (∃ out shown before after,
        (c.withDatabase (s.text p)).redacted = .ok out
        ∧ Entries.get? "database_url" out = some (.text shown)
        ∧ Url.split (s.text p) = .ok before ∧ Url.split shown = .ok after
        ∧ Url.password? before.authority.toList = some p.chars
        ∧ Url.password? after.authority.toList = some ['*', '*', '*']
        ∧ Url.userName? before.authority.toList = some s.user
        ∧ Url.userName? after.authority.toList = some s.user
        ∧ Url.hostPart before.authority.toList = s.host
        ∧ Url.hostPart after.authority.toList = s.host
        ∧ after.scheme = before.scheme ∧ after.path = before.path ∧ after.query = before.query
        ∧ after.fragment = before.fragment)
    ∧ (∀ url u, Url.split url = .ok u →
        (∀ w, Url.password? u.authority.toList = some w → w = []) →
        ∃ out, (c.withDatabase url).redacted = .ok out
          ∧ Entries.get? "database_url" out = some (.text url)) := by
  obtain ⟨out, hout, hurl⟩ := c.redacted_database (s.redact_text p)
  have hbefore : (s.parts p).authority.toList = s.authority p := String.toList_ofList
  have hafter : (s.parts .stars).authority.toList = s.authority .stars := String.toList_ofList
  obtain ⟨hu, hp, hh⟩ := Url.credentials_parts s.noColon s.noAt p.chars
  obtain ⟨hu', hp', hh'⟩ := Url.credentials_parts s.noColon s.noAt Password.stars.chars
  -- what is shown of the address with either password is the address with three stars
  refine ⟨c.redacted_congr ((s.redact_text p).trans (s.redact_text q).symm), ?_, ?_⟩
  · refine ⟨out, _, _, _, hout, hurl, s.split_text p, s.split_shown .stars, ?_⟩
    rw [hbefore, hafter]
    exact ⟨hp, hp', hu, hu', hh, hh', rfl, rfl, rfl, rfl⟩
  · intro url u hsplit hnone
    exact c.redacted_database (Url.redact_of_no_password hsplit hnone)

/-- Under the default settings an awkward password looks like three stars, and an address with a user
name alone is displayed as it is. -/
theorem redacted_of_defaults : ∃ c, Config.read [] = .ok c
    ∧ (c.withDatabase (Url.someSite.text Url.awkwardPassword)).redacted =
        (c.withDatabase (Url.someSite.text .stars)).redacted
    ∧ ∃ out, (c.withDatabase "postgresql://reporter@db/fleet").redacted = .ok out
        ∧ Entries.get? "database_url" out = some (.text "postgresql://reporter@db/fleet") := by
  have hsplit : Url.split "postgresql://reporter@db/fleet" =
      .ok ⟨"postgresql", "reporter@db", "/fleet", "", ""⟩ := rfl
  refine ⟨_, rfl, ?_⟩
  obtain ⟨hmasked, -, hshown⟩ := redacted_masks _ Url.someSite Url.awkwardPassword .stars
  exact ⟨hmasked, hshown _ _ hsplit fun w hw => by cases hw⟩

end Config
end FleetHealth
