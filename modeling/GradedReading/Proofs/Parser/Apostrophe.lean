import GradedReading.Proofs.Parser.Outcome
import GradedReading.Proofs.Text.Straight
import Mathlib.Data.List.Forall2

/-!
# GradedReading.Proofs.Parser.Apostrophe

What becomes of an English document if the curly apostrophes of its text are made straight.

**Key idea:** both texts have the same words but for the apostrophes, so that the two runs of the
parser can be compared token by token (`Token.Straightens`). A rule tells them apart in two ways
only:

* it looks for an apostrophe and knows the straight one alone: `don’t` is no negation and `don't`
  is one;
* it asks for a number of bytes, and the curly apostrophe takes three of them: `x’ed` is long enough
  for a past form and `x'ed` is not (`Token.isClipped`).

`Construction.needsStraight` and `Construction.needsCurly` list the rules where this happens, and
`Context.Straightens.balance` says that nothing else differs. Rules on sentences, counts and the
decision whether a text is parsed at all see no difference (`straightens_of_parse`).
-/

namespace GradedReading

open Text

namespace Parser

/-! ### One token -/

/-- The second token is the first one with straight apostrophes. A word does not begin with one. -/
structure Token.Straightens (t u : Token) : Prop where
  lower : u.lower = t.lower.map straight
  head : t.lower.head? ≠ some '\u2019'

/-- Words without apostrophes. -/
def isPlain (list : List String) : Bool := list.all fun w => !w.toList.any isApostrophe

theorem isPlain_beForms : isPlain beForms = true := by decide +kernel

theorem isPlain_suffixExceptions : isPlain suffixExceptions = true := by decide +kernel

theorem isPlain_irregularParticiples : isPlain irregularParticiples = true := by decide +kernel

theorem Token.Straightens.isOneOf_eq {t u : Token} (h : t.Straightens u) (list : List String)
    (hlist : isPlain list = true) : u.isOneOf list = t.isOneOf list := by
  rw [Bool.eq_iff_iff, Token.isOneOf, Token.isOneOf, List.any_eq_true, List.any_eq_true]
  refine exists_congr fun w => and_congr_right fun hw => ?_
  have hplain : w.toList.any isApostrophe = false := by
    simpa using List.all_eq_true.1 hlist w hw
  rw [beq_iff_eq, beq_iff_eq, h.lower, eq_comm, map_straight_eq_iff hplain, eq_comm]

theorem Token.endsIn_iff {t : Token} {suffix : String} :
    t.endsIn suffix = true ↔ suffix.toList <:+ t.lower := List.isSuffixOf_iff_suffix

theorem Token.Straightens.endsIn_eq {t u : Token} (h : t.Straightens u) (suffix : String)
    (hsuffix : suffix.toList.any isApostrophe = false) : u.endsIn suffix = t.endsIn suffix := by
  rw [Bool.eq_iff_iff, Token.endsIn_iff, Token.endsIn_iff, h.lower, suffix_map_straight_iff hsuffix]

/-! ### Sizes in bytes -/

/-- A word of one character that takes a byte, a curly apostrophe and this suffix. With a straight
apostrophe it has two bytes before the suffix instead of four. -/
def Token.isClipped (suffix : String) (t : Token) : Bool :=
  match t.lower with
  | c :: rest => c.utf8Size == 1 && rest == '\u2019' :: suffix.toList
  | [] => false

theorem Token.isClipped_iff {t : Token} {suffix : String} :
    t.isClipped suffix = true ↔ ∃ c, c.utf8Size = 1 ∧ t.lower = [c, '\u2019'] ++ suffix.toList := by
  rw [Token.isClipped]
  cases t.lower with
  | nil => simp
  | cons c rest => simp

/-- What stands before the suffix, in both tokens. -/
theorem Token.Straightens.exists_stem {t u : Token} (h : t.Straightens u) {suffix : String}
    (hsuffix : suffix.toList.any isApostrophe = false) (hends : t.endsIn suffix = true) :
    ∃ stem, stem.head? ≠ some '\u2019' ∧ t.lower = stem ++ suffix.toList ∧
      u.lower = stem.map straight ++ suffix.toList := by
  obtain ⟨stem, hstem⟩ := Token.endsIn_iff.1 hends
  refine ⟨stem, fun hcurly => h.head ?_, hstem.symm, ?_⟩
  · -- the word begins as the stem does
    rw [← hstem, List.head?_append, hcurly, Option.some_or]
  · rw [h.lower, ← hstem, List.map_append, (map_straight_eq_iff hsuffix).2 rfl]

/-- Of the words with this suffix and more than two bytes before it exactly the clipped ones become
too short. -/
theorem Token.Straightens.longerThan_two {t u : Token} (h : t.Straightens u) (suffix : String)
    (n : Nat) (hsuffix : suffix.toList.any isApostrophe = false)
    (hn : n = 2 + byteLength suffix.toList) :
    (u.longerThan n && u.endsIn suffix) =
      (t.longerThan n && t.endsIn suffix && !t.isClipped suffix) := by
  rw [h.endsIn_eq suffix hsuffix]
  cases hends : t.endsIn suffix with
  | false => simp
  | true =>
      obtain ⟨stem, hhead, ht, hu⟩ := h.exists_stem hsuffix hends
      rw [Bool.and_true, Bool.and_true, Bool.eq_iff_iff, Bool.and_eq_true, Bool.not_eq_true',
        ← Bool.not_eq_true, Token.isClipped_iff, Token.longerThan, Token.longerThan,
        decide_eq_true_eq, decide_eq_true_eq, ht, hu, byteLength_append, byteLength_append, hn,
        Nat.add_lt_add_iff_right, Nat.add_lt_add_iff_right, two_lt_byteLength_map_straight hhead]
      simp only [List.append_left_inj]

/-- Of those with more than one byte before it none does. -/
theorem Token.Straightens.longerThan_one {t u : Token} (h : t.Straightens u) (suffix : String)
    (n : Nat) (hsuffix : suffix.toList.any isApostrophe = false)
    (hn : n = 1 + byteLength suffix.toList) :
    (u.longerThan n && u.endsIn suffix) = (t.longerThan n && t.endsIn suffix) := by
  rw [h.endsIn_eq suffix hsuffix]
  cases hends : t.endsIn suffix with
  | false => simp
  | true =>
      obtain ⟨stem, hhead, ht, hu⟩ := h.exists_stem hsuffix hends
      rw [Bool.and_true, Bool.and_true, Bool.eq_iff_iff, Token.longerThan, Token.longerThan,
        decide_eq_true_eq, decide_eq_true_eq, ht, hu, byteLength_append, byteLength_append, hn,
        Nat.add_lt_add_iff_right, Nat.add_lt_add_iff_right, one_lt_byteLength_map_straight hhead]

theorem Token.endsIn_of_isClipped {t : Token} {suffix : String} (h : t.isClipped suffix = true) :
    t.endsIn suffix = true := by
  obtain ⟨c, -, hc⟩ := Token.isClipped_iff.1 h
  exact Token.endsIn_iff.2 ⟨_, hc.symm⟩

theorem Token.longerThan_of_isClipped {t : Token} {suffix : String}
    (h : t.isClipped suffix = true) : t.longerThan (2 + byteLength suffix.toList) = true := by
  obtain ⟨c, hc, hlower⟩ := Token.isClipped_iff.1 h
  have hcurly : Char.utf8Size '\u2019' = 3 := by decide
  rw [Token.longerThan, decide_eq_true_eq, hlower, byteLength_append, byteLength_cons,
    byteLength_cons, byteLength_nil, hc, hcurly]
  omega

theorem Token.isOneOf_of_isClipped {t : Token} {suffix : String} (h : t.isClipped suffix = true)
    {list : List String} (hlist : isPlain list = true) : t.isOneOf list = false := by
  obtain ⟨c, -, hlower⟩ := Token.isClipped_iff.1 h
  refine List.any_eq_false.2 fun w hw hequal => ?_
  have hplain := List.all_eq_true.1 hlist w hw
  rw [beq_iff_eq.1 hequal, hlower] at hplain
  simp [isApostrophe] at hplain

/-! ### Rules on one token -/

theorem Token.Straightens.isException_eq {t u : Token} (h : t.Straightens u) :
    isException u = isException t := h.isOneOf_eq _ isPlain_suffixExceptions

theorem Token.Straightens.inflected_ed {t u : Token} (h : t.Straightens u) :
    inflected "ed" u = (inflected "ed" t && !t.isClipped "ed") := by
  have hlong := h.longerThan_two "ed" 4 (by decide) (by decide)
  simp only [inflected, h.isException_eq, h.isOneOf_eq _ isPlain_beForms, Bool.and_assoc,
    hlong]

theorem Token.Straightens.inflected_ing {t u : Token} (h : t.Straightens u) :
    inflected "ing" u = inflected "ing" t := by
  have hlong := h.longerThan_one "ing" 4 (by decide) (by decide)
  simp only [inflected, h.isException_eq, h.isOneOf_eq _ isPlain_beForms, Bool.and_assoc,
    hlong]

theorem Token.Straightens.isParticiple_eq {t u : Token} (h : t.Straightens u) :
    isParticiple u = (isParticiple t && !t.isClipped "ed") := by
  have hlong := h.longerThan_two "ed" 4 (by decide) (by decide)
  have hirregular := h.isOneOf_eq _ isPlain_irregularParticiples
  rw [isParticiple, isParticiple, hlong, h.isException_eq, hirregular]
  cases hclipped : t.isClipped "ed" with
  | false => simp
  | true =>
      have hnone : t.isOneOf irregularParticiples = false :=
        Token.isOneOf_of_isClipped hclipped isPlain_irregularParticiples
      simp [hnone]

theorem isException_of_isClipped {t : Token} {suffix : String} (h : t.isClipped suffix = true) :
    isException t = false := Token.isOneOf_of_isClipped h isPlain_suffixExceptions

theorem inflected_of_isClipped {t : Token} (h : t.isClipped "ed" = true) :
    inflected "ed" t = true := by
  have hbe : t.isOneOf beForms = false := Token.isOneOf_of_isClipped h isPlain_beForms
  have hlong : t.longerThan 4 = true := Token.longerThan_of_isClipped h
  simp [inflected, hbe, isException_of_isClipped h, hlong, Token.endsIn_of_isClipped h]

theorem isParticiple_of_isClipped {t : Token} (h : t.isClipped "ed" = true) :
    isParticiple t = true := by
  have hlong : t.longerThan 4 = true := Token.longerThan_of_isClipped h
  simp [isParticiple, isException_of_isClipped h, hlong, Token.endsIn_of_isClipped h]

/-- A word has one ending of each length. -/
theorem Token.endsIn_eq_false {t : Token} {suffix other : String} (h : t.endsIn suffix = true)
    (hlength : other.toList.length = suffix.toList.length) (hne : other.toList ≠ suffix.toList) :
    t.endsIn other = false := by
  by_contra hends
  have hother := Token.endsIn_iff.1 (Bool.of_not_eq_false hends)
  have hsuffix := List.suffix_of_suffix_length_le hother (Token.endsIn_iff.1 h) hlength.le
  exact hne (hsuffix.eq_of_length hlength)

theorem Token.endsIn_of_isOneOf {t : Token} {list : List String} {suffix : String}
    (hlist : list.all (fun w => !suffix.toList.isSuffixOf w.toList) = true)
    (h : t.isOneOf list = true) : t.endsIn suffix = false := by
  obtain ⟨w, hw, hequal⟩ := List.any_eq_true.1 h
  rw [Token.endsIn, ← beq_iff_eq.1 hequal]
  simpa using List.all_eq_true.1 hlist w hw

/-- A participle is no adverb in `-ly`. -/
theorem endsIn_ly_of_isParticiple {t : Token} (h : isParticiple t = true) :
    t.endsIn "ly" = false := by
  simp only [isParticiple, Bool.or_eq_true, Bool.and_eq_true] at h
  rcases h with ⟨⟨-, hed⟩, -⟩ | hirregular
  · exact Token.endsIn_eq_false hed rfl (by decide)
  · exact Token.endsIn_of_isOneOf (by decide +kernel) hirregular

theorem suffix_not_map_straight_iff {cs : List Char} :
    ['n', '\'', 't'] <:+ cs.map straight ↔
      ['n', '\'', 't'] <:+ cs ∨ ['n', '\u2019', 't'] <:+ cs := by
  constructor
  · rintro ⟨before, hbefore⟩
    obtain ⟨as, bs, rfl, -, hbs⟩ := List.map_eq_append_iff.1 hbefore.symm
    obtain ⟨n, bs, rfl, hn, hbs⟩ := List.map_eq_cons_iff.1 hbs
    obtain ⟨apostrophe, bs, rfl, hapostrophe, hbs⟩ := List.map_eq_cons_iff.1 hbs
    rw [(straight_eq_iff (by decide)).1 hn, (map_straight_eq_iff (by decide)).1 hbs]
    by_cases hcurly : apostrophe = '\u2019'
    · exact .inr ⟨as, by rw [hcurly]⟩
    · rw [straight_of_ne hcurly] at hapostrophe
      exact .inl ⟨as, by rw [hapostrophe]⟩
  · rintro (⟨before, rfl⟩ | ⟨before, rfl⟩) <;>
      exact ⟨before.map straight, by rw [List.map_append]; rfl⟩

theorem Token.Straightens.negates_eq {t u : Token} (h : t.Straightens u) :
    negates .english u = (negates .english t || t.endsIn "n\u2019t") := by
  have hlist := h.isOneOf_eq (lexicon .english).negations (by decide +kernel)
  have hends : u.endsIn "n't" = (t.endsIn "n't" || t.endsIn "n\u2019t") := by
    rw [Bool.eq_iff_iff, Bool.or_eq_true, Token.endsIn_iff, Token.endsIn_iff, Token.endsIn_iff,
      h.lower]
    exact suffix_not_map_straight_iff
  rw [negates, negates, hlist, hends]
  simp [Bool.or_assoc]

theorem not_negates_of_endsIn {t : Token} (h : t.endsIn "n\u2019t" = true) :
    negates .english t = false := by
  have hlist : t.isOneOf (lexicon .english).negations = false := by
    by_contra hnegation
    have hends : t.endsIn "n\u2019t" = false :=
      Token.endsIn_of_isOneOf (by decide +kernel) (Bool.of_not_eq_false hnegation)
    simp [h] at hends
  have hends : t.endsIn "n't" = false := Token.endsIn_eq_false h rfl (by decide)
  simp [negates, hlist, hends]

/-! ### A token between its neighbours -/

/-- The second context is the first one with straight apostrophes. -/
structure Context.Straightens (x y : Context) : Prop where
  previous : Option.Rel Token.Straightens x.previous y.previous
  token : x.token.Straightens y.token
  next : Option.Rel Token.Straightens x.next y.next
  afterNext : Option.Rel Token.Straightens x.afterNext y.afterNext

theorem forall₂_of_chars {ss vs : List Piece}
    (h : vs.map Piece.chars = ss.map fun s => s.chars.map straight) :
    List.Forall₂ (fun s v : Piece => s.chars.map straight = v.chars) ss vs := by
  rw [← List.forall₂_map_left_iff (R := fun chars (v : Piece) => chars = v.chars),
    ← List.forall₂_map_right_iff (R := Eq), List.forall₂_eq_eq_eq, h]

theorem straightens_tokenize (cs : List Char) :
    List.Forall₂ Token.Straightens (tokenize cs) (tokenize (cs.map straight)) := by
  rw [tokenize, tokenize, List.forall₂_map_left_iff, List.forall₂_map_right_iff]
  have hchars := forall₂_of_chars (chars_wordPieces_straight cs)
  refine ((List.forall₂_and_left _ _).2 ⟨fun w hw => isWord_of_mem hw, hchars⟩).imp ?_
  rintro w v ⟨hw, hv⟩
  refine ⟨by rw [← hv, lowerChars_straight], head?_lowerChars_ne fun hcurly => ?_⟩
  obtain ⟨c, rest, hchars, hc⟩ := hw.firm.head
  rw [hchars, List.head?_cons, Option.some.injEq] at hcurly
  simp [hcurly, isApostrophe] at hc

theorem straightens_contextsFrom {ts us : List Token} (h : List.Forall₂ Token.Straightens ts us)
    {p q : Option Token} (hprevious : Option.Rel Token.Straightens p q) :
    List.Forall₂ Context.Straightens (contextsFrom p ts) (contextsFrom q us) := by
  induction h generalizing p q with
  | nil => exact .nil
  | cons htoken htail ih =>
      refine .cons ⟨hprevious, htoken, ?_, ?_⟩ (ih (.some htoken))
      · cases htail with
        | nil => exact .none
        | cons hnext => exact .some hnext
      · cases htail with
        | nil => exact .none
        | cons _ hrest =>
            cases hrest with
            | nil => exact .none
            | cons hafter => exact .some hafter

theorem isSome_of_rel {R : Token → Token → Prop} {a b : Option Token} (h : Option.Rel R a b) :
    b.isSome = a.isSome := by
  cases h <;> rfl

theorem any_isOneOf_of_rel {a b : Option Token} (h : Option.Rel Token.Straightens a b)
    (list : List String) (hlist : isPlain list = true) :
    b.any (·.isOneOf list) = a.any (·.isOneOf list) := by
  cases h with
  | none => rfl
  | some h => exact h.isOneOf_eq list hlist

theorem any_isParticiple_of_rel {a b : Option Token} (h : Option.Rel Token.Straightens a b) :
    b.any isParticiple = (a.any isParticiple && !a.any (·.isClipped "ed")) := by
  cases h with
  | none => rfl
  | some h => exact h.isParticiple_eq

/-- The word shows the construction only if its apostrophe is straight. -/
def Construction.needsStraight (x : Context) : Construction → Bool
  | .negation => x.token.endsIn "n\u2019t"
  | _ => false

/-- The word shows the construction only because its apostrophe, or the one in a word after it, is
curly. -/
def Construction.needsCurly (x : Context) : Construction → Bool
  | .pastRegular => x.token.isClipped "ed"
  | .passiveVoice => x.token.isOneOf beForms && x.next.any fun n =>
      n.isClipped "ed" || (n.endsIn "ly" && x.afterNext.any (·.isClipped "ed"))
  | .superlative => x.token.isClipped "est" && x.previous.any (·.isOneOf ["the"])
  | _ => false

theorem isSome_passiveAt (x : Context) :
    (passiveAt x).isSome = (x.token.isOneOf beForms && x.next.any fun n =>
      isParticiple n || (n.endsIn "ly" && x.afterNext.any isParticiple)) := by
  rw [passiveAt, Bool.eq_iff_iff]
  cases x.token.isOneOf beForms with
  | false => simp
  | true =>
      cases x.next with
      | none => simp
      | some n =>
          cases hn : isParticiple n <;> cases x.afterNext <;> simp [hn]

theorem isSome_comparativeAt (x : Context) :
    (comparativeAt x).isSome = (x.token.isOneOf ["than"] && x.previous.isSome) := by
  rw [comparativeAt]
  cases x.token.isOneOf ["than"] <;> simp

theorem isSome_superlativeAt (x : Context) :
    (superlativeAt x).isSome = ((x.token.isOneOf ["most", "least"] && x.next.isSome) ||
      (!isException x.token && (x.token.longerThan 5 && x.token.endsIn "est") &&
        x.previous.any (·.isOneOf ["the"]))) := by
  rw [superlativeAt, Bool.eq_iff_iff]
  cases x.token.isOneOf ["most", "least"] <;> cases x.next <;> cases x.previous <;>
    simp [Bool.and_assoc]

/-- What a rule loses by a condition that it has met is what meets the condition. -/
theorem toNat_and_not {shown lost : Bool} (h : lost = true → shown = true) :
    (shown && !lost).toNat + lost.toNat = shown.toNat := by
  revert h
  cases shown <;> cases lost <;> decide

theorem Context.Straightens.balance_negation {x y : Context} (h : x.Straightens y) :
    (negates .english y.token).toNat =
      (negates .english x.token).toNat + (x.token.endsIn "n\u2019t").toNat := by
  rw [h.token.negates_eq]
  cases hends : x.token.endsIn "n\u2019t" with
  | false => simp
  | true => simp [not_negates_of_endsIn hends]

/-- The word after a form of *to be*, `after` telling whether a participle follows it and `clipped`
whether that is a clipped one. -/
theorem Token.Straightens.balance_participle {n m : Token} (h : n.Straightens m)
    {after clipped : Bool} (hafter : clipped = true → after = true) :
    (isParticiple m || (m.endsIn "ly" && (after && !clipped))).toNat +
        (n.isClipped "ed" || (n.endsIn "ly" && clipped)).toNat =
      (isParticiple n || (n.endsIn "ly" && after)).toNat := by
  rw [h.isParticiple_eq, h.endsIn_eq "ly" (by decide)]
  cases hn : isParticiple n with
  | true =>
      -- what follows is not looked at, not even if the participle is clipped
      rw [endsIn_ly_of_isParticiple hn]
      cases n.isClipped "ed" <;> rfl
  | false =>
      have hclipped : n.isClipped "ed" = false := by
        by_contra h
        simp [isParticiple_of_isClipped (Bool.of_not_eq_false h)] at hn
      rw [hclipped]
      cases n.endsIn "ly" with
      | false => rfl
      | true => exact toNat_and_not hafter

theorem any_isParticiple_of_isClipped {a : Option Token} (h : a.any (·.isClipped "ed") = true) :
    a.any isParticiple = true := by
  cases a with
  | none => exact absurd h nofun
  | some t => exact isParticiple_of_isClipped h

theorem Context.Straightens.balance_passiveVoice {x y : Context} (h : x.Straightens y) :
    (passiveAt y).isSome.toNat + (Construction.passiveVoice.needsCurly x).toNat =
      (passiveAt x).isSome.toNat := by
  rw [isSome_passiveAt, isSome_passiveAt, Construction.needsCurly,
    h.token.isOneOf_eq _ isPlain_beForms, any_isParticiple_of_rel h.afterNext]
  cases x.token.isOneOf beForms with
  | false => rfl
  | true =>
      have hnext := h.next
      generalize x.next = a, y.next = b at hnext
      cases hnext with
      | none => rfl
      | some hn => exact hn.balance_participle any_isParticiple_of_isClipped

theorem Context.Straightens.balance_superlative {x y : Context} (h : x.Straightens y) :
    (superlativeAt y).isSome.toNat + (Construction.superlative.needsCurly x).toNat =
      (superlativeAt x).isSome.toNat := by
  have hlong := h.token.longerThan_two "est" 5 (by decide) (by decide)
  rw [isSome_superlativeAt, isSome_superlativeAt, Construction.needsCurly,
    h.token.isOneOf_eq ["most", "least"] (by decide), h.token.isException_eq, hlong,
    isSome_of_rel h.next, any_isOneOf_of_rel h.previous ["the"] (by decide)]
  cases hclipped : x.token.isClipped "est" with
  | false => simp
  | true =>
      have hmost : x.token.isOneOf ["most", "least"] = false :=
        Token.isOneOf_of_isClipped hclipped (by decide)
      have hfive : x.token.longerThan 5 = true := Token.longerThan_of_isClipped hclipped
      simp [hmost, hfive, isException_of_isClipped hclipped, Token.endsIn_of_isClipped hclipped]

/-- **The rules on words differ where they are listed to, and nowhere else.** -/
theorem Context.Straightens.balance {x y : Context} (h : x.Straightens y) (c : Construction) :
    (c.atWord .english y).isSome.toNat + (c.needsCurly x).toNat =
      (c.atWord .english x).isSome.toNat + (c.needsStraight x).toNat := by
  have hone (p : Bool) (span : Span) : (if p then some span else none).isSome = p := by
    cases p <;> rfl
  cases c
  case negation =>
    simp only [Construction.atWord, hone]
    exact h.balance_negation
  case passiveVoice => exact h.balance_passiveVoice
  case superlative => exact h.balance_superlative
  case pastRegular =>
    simp only [Construction.atWord, true_and, hone, h.token.inflected_ed]
    exact toNat_and_not inflected_of_isClipped
  case progressive =>
    simp only [Construction.atWord, true_and, hone, h.token.inflected_ing]
    rfl
  case comparative =>
    simp only [Construction.atWord, if_true, isSome_comparativeAt, isSome_of_rel h.previous,
      h.token.isOneOf_eq ["than"] (by decide)]
    rfl
  case conditional | modalVerb | relativeClause =>
    simp only [Construction.atWord, hone]
    rw [h.token.isOneOf_eq _ (by decide +kernel)]
    rfl
  case question | longSentence => rfl

theorem balance_contexts {xs ys : List Context} (h : List.Forall₂ Context.Straightens xs ys)
    (c : Construction) :
    ys.countP (fun y => (c.atWord .english y).isSome) + xs.countP (fun x => c.needsCurly x) =
      xs.countP (fun x => (c.atWord .english x).isSome) +
        xs.countP (fun x => c.needsStraight x) := by
  have hone (b : Bool) : (if b then 1 else 0) = b.toNat := by cases b <;> rfl
  induction h with
  | nil => rfl
  | cons hx _ ih =>
      simp only [List.countP_cons, hone]
      have := hx.balance c
      omega

/-! ### Counts and sentences -/

theorem countP_of_forall₂ {α β : Type} {R : α → β → Prop} {p : α → Bool} {q : β → Bool}
    {as : List α} {bs : List β} (h : List.Forall₂ R as bs) (hpq : ∀ a b, R a b → q b = p a) :
    bs.countP q = as.countP p := by
  induction h with
  | nil => rfl
  | cons hab _ ih => rw [List.countP_cons, List.countP_cons, ih, hpq _ _ hab]

theorem isShownBy_straight {s v : Piece} (h : s.chars.map straight = v.chars) (c : Construction) :
    c.isShownBy v = c.isShownBy s := by
  cases c
  case question =>
    have hmark := apply_straight (fun c => c == '?' || c == '\u061f') (by decide)
    simp only [Construction.isShownBy, asksQuestion, ← h, List.getLast?_map]
    cases s.chars.getLast? with
    | none => rfl
    | some c => exact hmark c
  case longSentence =>
    have hlength := congrArg List.length (chars_wordPieces_straight s.chars)
    rw [List.length_map, List.length_map] at hlength
    simp only [Construction.isShownBy, ← h, hlength]
  all_goals rfl

theorem length_places_of_sentences {c : Construction} (hc : c.isOfSentences = true)
    (language : Language) (cs : List Char) :
    (c.places language (tokenize cs) (sentencePieces cs)).length =
      (sentencePieces cs).countP fun s => c.isShownBy s := by
  rw [c.places_of_sentences hc, List.length_filterMap_eq_countP]
  refine List.countP_congr fun s hs => ?_
  rw [c.atSentence_eq hs]
  cases c.isShownBy s <;> simp

theorem vowelGroupsFrom_straight (inGroup : Bool) (cs : List Char) :
    vowelGroupsFrom inGroup (cs.map straight) = vowelGroupsFrom inGroup cs := by
  induction cs generalizing inGroup with
  | nil => rfl
  | cons c cs ih =>
      have hvowel : isVowel (straight c) = isVowel c := apply_straight isVowel (by decide) c
      rw [List.map_cons, vowelGroupsFrom, vowelGroupsFrom, hvowel, ih]

theorem hasSilentE_straight (cs : List Char) : hasSilentE (cs.map straight) = hasSilentE cs := by
  have hsuffix (ds : List Char) (h : ds.any isApostrophe = false) :
      ds.isSuffixOf (cs.map straight) = ds.isSuffixOf cs := by
    rw [Bool.eq_iff_iff, List.isSuffixOf_iff_suffix, List.isSuffixOf_iff_suffix,
      suffix_map_straight_iff h]
  rw [hasSilentE, hsuffix _ (by decide), hsuffix _ (by decide), hasSilentE]

theorem syllables_straight (cs : List Char) :
    syllables .english (cs.map straight) = syllables .english cs := by
  have hgroups : vowelGroups (cs.map straight) = vowelGroups cs := vowelGroupsFrom_straight false cs
  simp only [syllables]
  rw [hgroups, hasSilentE_straight]

theorem sum_syllables_straight {ts us : List Token} (h : List.Forall₂ Token.Straightens ts us) :
    us.foldr (fun t n => syllables .english t.lower + n) 0 =
      ts.foldr (fun t n => syllables .english t.lower + n) 0 := by
  induction h with
  | nil => rfl
  | cons h _ ih => rw [List.foldr_cons, List.foldr_cons, ih, h.lower, syllables_straight]

/-- **All counts stay.** -/
theorem statsOf_straight (cs : List Char) :
    statsOf .english (tokenize (cs.map straight)) (sentencePieces (cs.map straight)) =
      statsOf .english (tokenize cs) (sentencePieces cs) := by
  have htokens := straightens_tokenize cs
  have hsentences := congrArg List.length (chars_sentencePieces_straight cs)
  rw [List.length_map, List.length_map] at hsentences
  have hlong : (tokenize (cs.map straight)).countP (fun t => longWordChars < t.lower.length) =
      (tokenize cs).countP fun t => longWordChars < t.lower.length :=
    countP_of_forall₂ htokens fun t u h => by rw [h.lower, List.length_map]
  simp only [statsOf, htokens.length_eq, hsentences, sum_syllables_straight htokens, hlong]

end Parser

/-- The second document is that of the same text with straight apostrophes: it has the same counts,
and as many places of each construction but for the words that need the one or the other. -/
structure Document.Straightens (d e : Document) (text : String) : Prop where
  stats : e.stats = d.stats
  places : ∀ c : Parser.Construction,
    (e.placesOf c).length +
        (Parser.contexts (Parser.tokenize text.toList)).countP (fun x => c.needsCurly x) =
      (d.placesOf c).length +
        (Parser.contexts (Parser.tokenize text.toList)).countP (fun x => c.needsStraight x)

namespace Parser

theorem length_places_straight (c : Construction) (cs : List Char) :
    (c.places .english (tokenize (cs.map straight)) (sentencePieces (cs.map straight))).length +
        (contexts (tokenize cs)).countP (fun x => c.needsCurly x) =
      (c.places .english (tokenize cs) (sentencePieces cs)).length +
        (contexts (tokenize cs)).countP (fun x => c.needsStraight x) := by
  cases hc : c.isOfSentences with
  | true =>
      have hcurly (x : Context) : c.needsCurly x = false := by
        cases c <;> first | rfl | exact absurd hc nofun
      have hstraight (x : Context) : c.needsStraight x = false := by
        cases c <;> first | rfl | exact absurd hc nofun
      rw [length_places_of_sentences hc, length_places_of_sentences hc]
      simp only [hcurly, hstraight]
      have hsentences := forall₂_of_chars (chars_sentencePieces_straight cs)
      exact congrArg (· + _) (countP_of_forall₂ hsentences fun s v h => isShownBy_straight h c)
  | false =>
      rw [c.places_of_words hc, c.places_of_words hc, List.length_filterMap_eq_countP,
        List.length_filterMap_eq_countP]
      exact balance_contexts (straightens_contextsFrom (straightens_tokenize cs) .none) c

/-- **Straight apostrophes for curly ones** change neither whether a text is parsed nor any count,
and the constructions only as listed. -/
theorem straightens_of_parse (source : Source) :
    if source.text.toList.any isAlphanumeric then
      ∃ d e, parse .english source = .ok d ∧
        parse .english { source with text := straighten source.text } = .ok e ∧
          d.Straightens e source.text
    else
      parse .english source = .error (.empty source.rank) ∧
        parse .english { source with text := straighten source.text } =
          .error (.empty source.rank) := by
  have htext := toList_straighten source.text
  have hletter : (straighten source.text).toList.any isAlphanumeric =
      source.text.toList.any isAlphanumeric := by
    have hsame : isAlphanumeric ∘ straight = isAlphanumeric := funext isAlphanumeric_straight
    rw [htext, List.any_map, hsame]
  split
  · next h =>
    refine ⟨_, _, parse_of_any h, parse_of_any (hletter.trans h), ?_, fun c => ?_⟩
    · simp only [Document.fresh, htext, statsOf_straight]
    · simp only [Document.placesOf, Document.fresh, get?_constructionsOf, htext]
      exact length_places_straight c _
  · next h =>
    have hnone := Bool.eq_false_iff.2 h
    exact ⟨parse_of_not_any hnone, parse_of_not_any (hletter.trans hnone)⟩

/-- A negation with a curly apostrophe. -/
def curlyNegation : Source := ⟨⟨0, "t", none⟩, "I don\u2019t know."⟩

/-- **Not every construction stays.** -/
theorem not_straightens_dont :
    ¬ ∀ (source : Source) (d e : Document), parse .english source = .ok d →
      parse .english { source with text := straighten source.text } = .ok e →
        e.stats = d.stats ∧ ∀ c, (e.placesOf c).length = (d.placesOf c).length := by
  intro h
  have hany : curlyNegation.text.toList.any isAlphanumeric = true := by decide +kernel
  have hany' : (straighten curlyNegation.text).toList.any isAlphanumeric = true := by
    decide +kernel
  have hnegation := (h curlyNegation _ _ (parse_of_any hany) (parse_of_any hany')).2 .negation
  simp only [Document.placesOf, Document.fresh, get?_constructionsOf] at hnegation
  exact absurd hnegation (by decide +kernel)

end Parser

end GradedReading
