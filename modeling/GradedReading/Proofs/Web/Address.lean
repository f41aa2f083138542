import GradedReading.Proofs.Text.Glob
import GradedReading.Web.Blacklist

/-!
# GradedReading.Proofs.Web.Address

Which addresses a blacklist blocks.

**Key idea:** an address is put together from parts, none of which has the characters that end it.
So each cut that looks for the host finds the end of one part, whatever the other parts hold
(`hostChars_text`), and the blacklist sees the host alone.

The main statement is `goesByHosts`.
-/

namespace GradedReading.Web

open GradedReading.Text

/-! ### Addresses -/

/-- What stands between the scheme of an address and the rest. -/
def schemeEnd : List Char := [':', '/', '/']

/-- A web address, part by part. -/
structure Address where
  scheme : List Char
  userInfo : Option (List Char)
  host : List Char
  port : Option (List Char)
  /-- The path, the query and the fragment. -/
  tail : List Char
  scheme_plain : ¬schemeEnd <:+: scheme
  scheme_ne_file : scheme.map lowerAscii ≠ ['f', 'i', 'l', 'e']
  /-- It may hold an `@` or a `:`. -/
  userInfo_plain : ∀ u, userInfo = some u → ∀ c ∈ u, c ∉ ['/', '?', '#']
  host_ne_nil : host ≠ []
  host_plain : ∀ c ∈ host, c ∉ ['/', '?', '#', '@', ':']
  /-- It may hold a `:`. -/
  port_plain : ∀ p, port = some p → ∀ c ∈ p, c ∉ ['/', '?', '#', '@']
  tail_starts : ∀ c, tail.head? = some c → c ∈ ['/', '?', '#']

namespace Address

/-- The user information with its end. -/
def userPart (a : Address) : List Char := a.userInfo.elim [] (· ++ ['@'])

/-- The port with its beginning. -/
def portPart (a : Address) : List Char := a.port.elim [] (':' :: ·)

/-- What stands behind the scheme. -/
def rest (a : Address) : List Char := a.userPart ++ (a.host ++ a.portPart) ++ a.tail

/-- The address as it is written. -/
def text (a : Address) : String := String.ofList (a.scheme ++ schemeEnd ++ a.rest)

/-! ### The cuts -/

/-- The first `://` ends the scheme. It has no part in common with one further to the left, since it
begins as it does not go on. -/
theorem splitScheme_append {scheme : List Char} (h : ¬schemeEnd <:+: scheme) (rest : List Char) :
    splitScheme (scheme ++ schemeEnd ++ rest) = some (scheme, rest) := by
  induction scheme with
  | nil => rfl
  | cons c scheme ih =>
      have hlater : ¬schemeEnd <:+: scheme := fun hin => h (hin.trans (List.suffix_cons ..).isInfix)
      have hstep : splitScheme (c :: (scheme ++ schemeEnd ++ rest)) =
          (splitScheme (scheme ++ schemeEnd ++ rest)).map fun r => (c :: r.1, r.2) := by
        refine splitScheme.eq_3 _ _ fun after hcolon hslashes => h ?_
        subst hcolon
        -- two slashes behind the colon belong to the scheme
        rcases scheme with _ | ⟨_, _ | ⟨_, scheme⟩⟩
        · simp [schemeEnd] at hslashes
        · simp [schemeEnd] at hslashes
        · simp only [List.cons_append, List.cons.injEq] at hslashes
          obtain ⟨rfl, rfl, -⟩ := hslashes
          exact (List.prefix_append schemeEnd scheme).isInfix
      rw [List.cons_append, List.cons_append, hstep, ih hlater, Option.map_some]

theorem takeWhile_append_of_stop {p : Char → Bool} {cs rest : List Char}
    (hcs : ∀ c ∈ cs, p c = true) (hrest : ∀ c, rest.head? = some c → p c = false) :
    (cs ++ rest).takeWhile p = cs := by
  rw [List.takeWhile_append_of_pos hcs]
  cases rest with
  | nil => rw [List.takeWhile_nil, List.append_nil]
  | cons c rest => rw [List.takeWhile_cons_of_neg (by simp [hrest c rfl]), List.append_nil]

theorem startsTail_iff {c : Char} : startsTail c = true ↔ c ∈ ['/', '?', '#'] := by
  simp [startsTail, or_assoc]

/-- The last `@` ends the user information. -/
theorem afterUserInfo_append {front rest : List Char} (hrest : '@' ∉ rest)
    (hfront : ∀ c, front.getLast? = some c → c = '@') : afterUserInfo (front ++ rest) = rest := by
  have hplain : ∀ c ∈ rest.reverse, (c != '@') = true := fun c hc => by
    have hne : c ≠ '@' := fun h => hrest (h ▸ List.mem_reverse.1 hc)
    simpa using hne
  rw [afterUserInfo, List.reverse_append, takeWhile_append_of_stop hplain, List.reverse_reverse]
  intro c hc
  rw [List.head?_reverse] at hc
  simp [hfront c hc]

section Parts

variable (a : Address)

theorem startsTail_of_mem_authority :
    ∀ c ∈ a.userPart ++ (a.host ++ a.portPart), startsTail c = false := by
  have hplain {c : Char} (h : c ∉ ['/', '?', '#']) : startsTail c = false :=
    Bool.eq_false_iff.2 fun hc => h (startsTail_iff.1 hc)
  intro c hc
  simp only [List.mem_append] at hc
  rcases hc with hc | hc | hc
  · rcases hu : a.userInfo with _ | u
    · simp [userPart, hu] at hc
    · simp only [userPart, hu, Option.elim_some, List.mem_append, List.mem_singleton] at hc
      rcases hc with hc | rfl
      · exact hplain (a.userInfo_plain u hu c hc)
      · rfl
  · exact hplain fun h => a.host_plain c hc (List.mem_append_left ['@', ':'] h)
  · rcases hp : a.port with _ | p
    · simp [portPart, hp] at hc
    · simp only [portPart, hp, Option.elim_some, List.mem_cons] at hc
      rcases hc with rfl | hc
      · rfl
      · exact hplain fun h => a.port_plain p hp c hc (List.mem_append_left ['@'] h)

theorem getLast?_userPart (c : Char) (h : a.userPart.getLast? = some c) : c = '@' := by
  rcases hu : a.userInfo with _ | u
  · simp [userPart, hu] at h
  · simpa [userPart, hu, eq_comm] using h

theorem head?_portPart (c : Char) (h : a.portPart.head? = some c) : c = ':' := by
  rcases hp : a.port with _ | p
  · simp [portPart, hp] at h
  · simpa [portPart, hp, eq_comm] using h

theorem at_not_mem_host_port : '@' ∉ a.host ++ a.portPart := by
  intro h
  rcases List.mem_append.1 h with h | h
  · exact a.host_plain _ h (by decide)
  · rcases hp : a.port with _ | p
    · simp [portPart, hp] at h
    · simp only [portPart, hp, Option.elim_some, List.mem_cons] at h
      rcases h with h | h
      · exact absurd h (by decide)
      · exact a.port_plain p hp _ h (by decide)

/-- The cuts behind the scheme leave the host. -/
theorem hostPart_rest : hostPart a.rest = a.host := by
  have hcut : a.rest.takeWhile (!startsTail ·) = a.userPart ++ (a.host ++ a.portPart) := by
    refine takeWhile_append_of_stop (fun c hc => ?_) fun c hc => ?_
    · rw [a.startsTail_of_mem_authority c hc, Bool.not_false]
    · rw [startsTail_iff.2 (a.tail_starts c hc), Bool.not_true]
  rw [hostPart, hcut, afterUserInfo_append a.at_not_mem_host_port a.getLast?_userPart]
  refine takeWhile_append_of_stop (fun c hc => ?_) fun c hc => ?_
  · have hne : c ≠ ':' := fun h => a.host_plain c hc (by simp [h])
    simpa using hne
  · simp [a.head?_portPart c hc]

/-- **The host of an address is its host.** -/
theorem hostChars_text : hostChars a.text.toList = some a.host := by
  have hfile : isFileScheme a.scheme = false := by
    rw [isFileScheme, beq_eq_false_iff_ne]
    exact a.scheme_ne_file
  rw [text, String.toList_ofList, hostChars, splitScheme_append a.scheme_plain]
  simp [hfile, hostPart_rest, a.host_ne_nil]

end Parts

end Address

/-! ### Domains -/

/-- The domain is that of the host, or one that the host's domain is a part of. -/
def IsDomainOf (domain host : List Char) : Prop :=
  domain = host ∨ ∃ sub, host = sub ++ '.' :: domain

theorem mem_afterDots_iff {domain host : List Char} :
    domain ∈ afterDots host ↔ ∃ sub, host = sub ++ '.' :: domain := by
  induction host with
  | nil => simp [afterDots]
  | cons c host ih =>
      have hcons : (∃ sub, c :: host = sub ++ '.' :: domain) ↔
          c = '.' ∧ host = domain ∨ ∃ sub, host = sub ++ '.' :: domain := by
        constructor
        · rintro ⟨_ | ⟨d, sub⟩, h⟩
          · exact .inl (List.cons.inj h)
          · exact .inr ⟨sub, (List.cons.inj h).2⟩
        · rintro (⟨rfl, rfl⟩ | ⟨sub, rfl⟩)
          · exact ⟨[], rfl⟩
          · exact ⟨c :: sub, rfl⟩
      rw [hcons, ← ih, afterDots]
      split
      · next hc => simp [eq_of_beq hc, eq_comm]
      · next hc => simp [show c ≠ '.' from fun h => hc (beq_iff_eq.2 h)]

theorem mem_domainsOf_iff {domain host : List Char} :
    domain ∈ domainsOf host ↔ IsDomainOf domain host := by
  rw [domainsOf, List.mem_cons, mem_afterDots_iff, IsDomainOf]

/-- The domains of a host are domains of its subdomains. -/
theorem IsDomainOf.append {domain host : List Char} (h : IsDomainOf domain host)
    (sub : List Char) : IsDomainOf domain (sub ++ '.' :: host) := by
  rcases h with rfl | ⟨sub', rfl⟩
  · exact .inr ⟨sub, rfl⟩
  · exact .inr ⟨sub ++ '.' :: sub', by simp⟩

/-- Hosts in another case have their domains in another case. -/
theorem IsDomainOf.exists_of_map_eq {domain host host' : List Char} (h : IsDomainOf domain host)
    (hcase : host.map lowerAscii = host'.map lowerAscii) :
    ∃ domain', IsDomainOf domain' host' ∧ domain.map lowerAscii = domain'.map lowerAscii := by
  rcases h with rfl | ⟨sub, rfl⟩
  · exact ⟨host', .inl rfl, hcase⟩
  · rw [List.map_append] at hcase
    obtain ⟨sub', end', rfl, -, hend⟩ := List.map_eq_append_iff.1 hcase.symm
    obtain ⟨c, domain', rfl, hc, hdomain⟩ := List.map_eq_cons_iff.1 hend
    have hdot : c = '.' := by
      have hsame := apply_lowerAscii (· == '.') (by decide) c
      rw [hc] at hsame
      exact eq_of_beq hsame.symm
    exact ⟨domain', .inr ⟨sub', by rw [hdot]⟩, hdomain.symm⟩

/-! ### Blocking -/

namespace Blacklist

variable {b : Blacklist}

theorem blocksHost_iff {host : List Char} :
    b.blocksHost host = true ↔
      ∃ p ∈ b.patterns, ∃ domain, IsDomainOf domain host ∧ Describes p.toList domain := by
  simp only [blocksHost, blocksDomain, List.any_eq_true, mem_domainsOf_iff,
    matchesChars_ofString_iff]
  exact ⟨fun ⟨domain, hdomain, p, hp, h⟩ => ⟨p, hp, domain, hdomain, h⟩,
    fun ⟨p, hp, domain, hdomain, h⟩ => ⟨domain, hdomain, p, hp, h⟩⟩

/-- The case of a host does not matter. -/
theorem blocksHost_of_map_eq {host host' : List Char}
    (hcase : host.map lowerAscii = host'.map lowerAscii) (h : b.blocksHost host = true) :
    b.blocksHost host' = true := by
  obtain ⟨p, hp, domain, hdomain, hdescribes⟩ := blocksHost_iff.1 h
  obtain ⟨domain', hdomain', hsame⟩ := hdomain.exists_of_map_eq hcase
  exact blocksHost_iff.2 ⟨p, hp, domain', hdomain', (describes_congr rfl hsame).1 hdescribes⟩

theorem blocks_text (a : Address) : b.blocks a.text = b.blocksHost a.host := by
  rw [blocks, a.hostChars_text]

/-- A longer list blocks more. -/
theorem blocks_of_subset {b' : Blacklist} (hsub : b.patterns ⊆ b'.patterns) {url : String}
    (h : b.blocks url = true) : b'.blocks url = true := by
  unfold blocks at h ⊢
  split at h
  · simp at h
  · obtain ⟨p, hp, hrest⟩ := blocksHost_iff.1 h
    exact blocksHost_iff.2 ⟨p, hsub hp, hrest⟩

/-- What a blacklist makes of addresses. -/
structure GoesByHosts (b : Blacklist) : Prop where
  /-- Hosts that differ in the case of ASCII letters only are treated alike, whatever else their
  addresses hold. -/
  same : ∀ a a' : Address, a.host.map lowerAscii = a'.host.map lowerAscii →
    b.blocks a.text = b.blocks a'.text
  /-- An address is blocked for a pattern that describes its host or one of its parent domains. -/
  blocks_iff : ∀ a : Address, b.blocks a.text = true ↔
    ∃ p ∈ b.patterns, ∃ domain, IsDomainOf domain a.host ∧ Describes p.toList domain
  /-- With a host all its subdomains are blocked. -/
  subdomain : ∀ (a a' : Address) (sub : List Char), a'.host = sub ++ '.' :: a.host →
    b.blocks a.text = true → b.blocks a'.text = true
  /-- More patterns never unblock a URL, whether it is an address or not. -/
  monotone : ∀ (b' : Blacklist) (url : String), b.patterns ⊆ b'.patterns →
    b.blocks url = true → b'.blocks url = true

/-- **Every blacklist goes by hosts** and their parent domains. -/
theorem goesByHosts (b : Blacklist) : b.GoesByHosts where
  same a a' hcase := by
    rw [blocks_text, blocks_text, Bool.eq_iff_iff]
    exact ⟨blocksHost_of_map_eq hcase, blocksHost_of_map_eq hcase.symm⟩
  blocks_iff a := by rw [blocks_text, blocksHost_iff]
  subdomain a a' sub hhost h := by
    rw [blocks_text] at h ⊢
    obtain ⟨p, hp, domain, hdomain, hdescribes⟩ := blocksHost_iff.1 h
    exact blocksHost_iff.2 ⟨p, hp, domain, hhost ▸ hdomain.append sub, hdescribes⟩
  monotone b' url hsub h := blocks_of_subset hsub h

/-- An address whose user information looks like a host with a port. -/
def watchPage : Address where
  scheme := "https".toList
  userInfo := some "example.org:80@x".toList
  host := "m.YouTube.com".toList
  port := some "8080".toList
  tail := "/watch?v=1@example.org".toList
  scheme_plain := by decide
  scheme_ne_file := by decide
  userInfo_plain := by simp
  host_ne_nil := by decide
  host_plain := by simp
  port_plain := by simp
  tail_starts := by simp

/-- It is blocked for its own host, in spite of what the other parts hold. -/
theorem goesByHosts_watchPage :
    watchPage.text = "https://example.org:80@x@m.YouTube.com:8080/watch?v=1@example.org" ∧
      (standardAnd []).blocks watchPage.text = true := by
  refine ⟨by decide +kernel, ((goesByHosts _).blocks_iff watchPage).2 ?_⟩
  refine ⟨"youtube.com", by decide, "YouTube.com".toList, .inr ⟨['m'], by decide⟩, ?_⟩
  exact (matchesChars_ofString_iff "youtube.com" _).1 (by decide)

end Blacklist

end GradedReading.Web
