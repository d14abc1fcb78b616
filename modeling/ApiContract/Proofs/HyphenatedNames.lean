import ApiContract.Endpoint.TagName
/-!
# Hyphenated names

The tag of a handler is its name in lower case with hyphens between the words. What `kebabCase` does
to a name of letters and digits is stated here by the places of the hyphens, which are counted by the
letters and digits before them.

* `withoutHyphens`, `HyphenBefore` : a text without its hyphens, and the places of the hyphens.
* `hyphenBefore_hyphenate_iff` : there is a hyphen before a character exactly if it starts a word;
  `hyphenBetween_iff`, `hyphenBefore_run_iff` say when it does.
* `exists_letter_of_hyphen` : behind each hyphen stands a letter that starts a word.
* `hyphenate_eq_self` : a hyphenated text stays as it is.
* `hyphenated_names` : the hyphenated form of a name.
-/

namespace ApiContract

open Text

/-! ## Letters and digits -/

theorem isAlphanum_iff {c : Char} :
    c.isAlphanum = true ↔ c.isUpper = true ∨ c.isLower = true ∨ c.isDigit = true := by
  show ((c.isUpper || c.isLower) || c.isDigit) = true ↔ _
  rw [Bool.or_eq_true, Bool.or_eq_true, or_assoc]

/-- In lower case, a letter or digit is a lower-case letter or a digit. -/
theorem isLower_or_isDigit_toLower {c : Char} (h : c.isAlphanum = true) :
    c.toLower.isLower = true ∨ c.toLower.isDigit = true :=
  of_isAscii (p := fun c => c.isAlphanum = true →
    c.toLower.isLower = true ∨ c.toLower.isDigit = true) (by decide +kernel)
    (isAscii_of_isAlphanum h) h

theorem toLower_ne_hyphen {c : Char} (h : c.isAlphanum = true) : c.toLower ≠ '-' := by
  intro heq
  have hlower := isLower_or_isDigit_toLower h
  rw [heq] at hlower
  exact absurd hlower (by decide)

/-- A character of a hyphenated text: a lower-case letter, a digit or a hyphen. -/
def IsTagChar (c : Char) : Prop := c.isLower = true ∨ c.isDigit = true ∨ c = '-'

theorem IsTagChar.isAscii {c : Char} (h : IsTagChar c) : isAscii c = true := by
  rcases h with h | h | rfl
  · exact isAscii_of_isAlphanum (isAlphanum_iff.2 (.inr (.inl h)))
  · exact isAscii_of_isAlphanum (isAlphanum_iff.2 (.inr (.inr h)))
  · rfl

/-- The characters of hyphenated texts are their own lower-case forms. -/
theorem IsTagChar.isUpper_lower {c : Char} (h : IsTagChar c) : isUpper c = false ∧ lower c = [c] :=
  of_isAscii (p := fun c => (c.isLower = true ∨ c.isDigit = true ∨ c = '-') →
    isUpper c = false ∧ lower c = [c]) (by decide +kernel) h.isAscii h

/-! ## Hyphens and their places -/

/-- The characters of a text that are no hyphens. -/
def withoutHyphens (s : List Char) : List Char := s.filter (· ≠ '-')

/-- A hyphen of a text stands behind `n` other characters, before the next of them. -/
def HyphenBefore (s : List Char) (n : Nat) : Prop :=
  ∃ before after, s = before ++ '-' :: after ∧ (withoutHyphens before).length = n

theorem withoutHyphens_cons_of_ne {c : Char} (h : c ≠ '-') (s : List Char) :
    withoutHyphens (c :: s) = c :: withoutHyphens s :=
  List.filter_cons_of_pos (by simpa using h)

theorem withoutHyphens_hyphen (s : List Char) : withoutHyphens ('-' :: s) = withoutHyphens s :=
  List.filter_cons_of_neg (by simp)

theorem hyphenBefore_hyphen_iff {s : List Char} {n : Nat} :
    HyphenBefore ('-' :: s) n ↔ n = 0 ∨ HyphenBefore s n := by
  constructor
  · rintro ⟨before, after, heq, hn⟩
    cases before with
    | nil => exact .inl hn.symm
    | cons c before =>
      obtain ⟨rfl, hrest⟩ := List.cons.inj heq
      rw [withoutHyphens_hyphen] at hn
      exact .inr ⟨before, after, hrest, hn⟩
  · rintro (rfl | ⟨before, after, rfl, hn⟩)
    · exact ⟨[], s, rfl, rfl⟩
    · exact ⟨'-' :: before, after, rfl, by rw [withoutHyphens_hyphen, hn]⟩

theorem hyphenBefore_cons_iff {c : Char} (hc : c ≠ '-') {s : List Char} {n : Nat} :
    HyphenBefore (c :: s) n ↔ ∃ m, n = m + 1 ∧ HyphenBefore s m := by
  constructor
  · rintro ⟨before, after, heq, hn⟩
    cases before with
    | nil => exact absurd (List.cons.inj heq).1 hc
    | cons d before =>
      obtain ⟨rfl, hrest⟩ := List.cons.inj heq
      rw [withoutHyphens_cons_of_ne hc] at hn
      exact ⟨_, hn.symm, before, after, hrest, rfl⟩
  · rintro ⟨m, rfl, before, after, rfl, hm⟩
    exact ⟨c :: before, after, rfl, by rw [withoutHyphens_cons_of_ne hc, List.length_cons, hm]⟩

/-! ## Hyphens of a hyphenated text -/

variable {previous : Option Char} {cs : List Char}

/-- A letter or digit in lower case, with a hyphen before it if it starts a word. -/
theorem hyphenate_cons {c : Char} (hc : c.isAlphanum = true) (rest : List Char) :
    hyphenate previous (c :: rest) =
      (if startsWord previous c rest.head? then ['-'] else []) ++
        c.toLower :: hyphenate (some c) rest := by
  rw [hyphenate, lower_eq_of_isAlphanum hc, List.append_assoc, List.singleton_append]

theorem withoutHyphens_hyphenate (h : ∀ c ∈ cs, c.isAlphanum = true) :
    withoutHyphens (hyphenate previous cs) = cs.map Char.toLower := by
  induction cs generalizing previous with
  | nil => rfl
  | cons c rest ih =>
    obtain ⟨hc, hrest⟩ := List.forall_mem_cons.1 h
    have htail : withoutHyphens (c.toLower :: hyphenate (some c) rest) =
        c.toLower :: rest.map Char.toLower := by
      rw [withoutHyphens_cons_of_ne (toLower_ne_hyphen hc), ih hrest]
    rw [hyphenate_cons hc, List.map_cons]
    split
    · exact (withoutHyphens_hyphen _).trans htail
    · exact htail

theorem isTagChar_of_mem_hyphenate (h : ∀ c ∈ cs, c.isAlphanum = true) {d : Char}
    (hd : d ∈ hyphenate previous cs) : IsTagChar d := by
  by_cases hyphen : d = '-'
  · exact .inr (.inr hyphen)
  · have hmem : d ∈ withoutHyphens (hyphenate previous cs) :=
      List.mem_filter.2 ⟨hd, by simpa using hyphen⟩
    rw [withoutHyphens_hyphenate h] at hmem
    obtain ⟨c, hc, rfl⟩ := List.mem_map.1 hmem
    exact (isLower_or_isDigit_toLower (h c hc)).imp_right .inl

/-- The character before a text that follows `d`. -/
theorem getLast?_cons_or (d : Char) (u : List Char) (previous : Option Char) :
    (d :: u).getLast?.or previous = u.getLast?.or (some d) := by
  rw [List.getLast?_cons]
  cases u.getLast? <;> rfl

/-- A hyphen stands before a character exactly if it starts a word. -/
theorem hyphenBefore_hyphenate_iff {u v : List Char} {c : Char}
    (h : ∀ d ∈ u ++ c :: v, d.isAlphanum = true) :
    HyphenBefore (hyphenate previous (u ++ c :: v)) u.length ↔
      startsWord (u.getLast?.or previous) c v.head? = true := by
  induction u generalizing previous with
  | nil =>
    have hc : c.isAlphanum = true := h c (List.mem_cons_self ..)
    rw [List.nil_append, hyphenate_cons hc]
    cases hstart : startsWord previous c v.head? with
    | true => simp [hyphenBefore_hyphen_iff, hstart]
    | false => simp [hyphenBefore_cons_iff (toLower_ne_hyphen hc), hstart]
  | cons d u ih =>
    obtain ⟨hd, hrest⟩ := List.forall_mem_cons.1 h
    have htail : HyphenBefore (d.toLower :: hyphenate (some d) (u ++ c :: v)) (u.length + 1) ↔
        HyphenBefore (hyphenate (some d) (u ++ c :: v)) u.length := by
      simp [hyphenBefore_cons_iff (toLower_ne_hyphen hd)]
    rw [getLast?_cons_or, ← ih hrest, ← htail, List.cons_append, hyphenate_cons hd, List.length_cons]
    split
    · simp [hyphenBefore_hyphen_iff]
    · rfl

/-- Behind each hyphen stands the lower-case form of a letter that starts a word. -/
theorem exists_letter_of_hyphen (h : ∀ c ∈ cs, c.isAlphanum = true) {before after : List Char}
    (heq : hyphenate previous cs = before ++ '-' :: after) :
    ∃ u c v, cs = u ++ c :: v ∧ withoutHyphens before = u.map Char.toLower ∧
      startsWord (u.getLast?.or previous) c v.head? = true ∧ after.head? = some c.toLower := by
  induction cs generalizing previous before with
  | nil => exact absurd heq (by simp [hyphenate])
  | cons c rest ih =>
    obtain ⟨hc, hrest⟩ := List.forall_mem_cons.1 h
    have htail : ∀ b, c.toLower :: hyphenate (some c) rest = b ++ '-' :: after →
        ∃ u d v, c :: rest = u ++ d :: v ∧ withoutHyphens b = u.map Char.toLower ∧
          startsWord (u.getLast?.or previous) d v.head? = true ∧ after.head? = some d.toLower := by
      intro b hb
      cases b with
      | nil => exact absurd (List.cons.inj hb).1 (toLower_ne_hyphen hc)
      | cons e b =>
        obtain ⟨rfl, hb'⟩ := List.cons.inj hb
        obtain ⟨u, d, v, rfl, hu, hstart, hd⟩ := ih hrest hb'
        refine ⟨c :: u, d, v, rfl, ?_, getLast?_cons_or c u previous ▸ hstart, hd⟩
        rw [withoutHyphens_cons_of_ne (toLower_ne_hyphen hc), hu, List.map_cons]
    rw [hyphenate_cons hc] at heq
    cases hstart : startsWord previous c rest.head? with
    | false =>
      rw [hstart] at heq
      exact htail before heq
    | true =>
      rw [hstart] at heq
      cases before with
      | nil =>
        obtain ⟨-, rfl⟩ := List.cons.inj heq
        exact ⟨[], c, rest, rfl, rfl, hstart, rfl⟩
      | cons e before =>
        obtain ⟨rfl, hbefore⟩ := List.cons.inj heq
        rw [withoutHyphens_hyphen]
        exact htail before hbefore

theorem head?_hyphenate_ne (h : ∀ c ∈ cs, c.isAlphanum = true) :
    (hyphenate none cs).head? ≠ some '-' := by
  intro hhead
  obtain ⟨after, heq⟩ := List.head?_eq_some_iff.1 hhead
  have hfirst : hyphenate none cs = [] ++ '-' :: after := heq
  obtain ⟨u, c, v, -, hu, hstart, -⟩ := exists_letter_of_hyphen h hfirst
  obtain rfl : u = [] := List.map_eq_nil_iff.1 hu.symm
  cases hstart

theorem getLast?_hyphenate_ne (h : ∀ c ∈ cs, c.isAlphanum = true) :
    (hyphenate previous cs).getLast? ≠ some '-' := by
  intro hlast
  obtain ⟨before, heq⟩ := List.getLast?_eq_some_iff.1 hlast
  obtain ⟨u, c, v, -, -, -, hnone⟩ := exists_letter_of_hyphen h heq
  cases hnone

theorem not_infix_hyphenate (h : ∀ c ∈ cs, c.isAlphanum = true) :
    ¬ ['-', '-'] <:+: hyphenate previous cs := by
  rintro ⟨before, after, heq⟩
  rw [List.append_assoc] at heq
  obtain ⟨u, c, v, rfl, -, -, hc⟩ := exists_letter_of_hyphen h heq.symm
  exact toLower_ne_hyphen (h c (by simp)) (Option.some.inj hc).symm

/-- A hyphenated text stays as it is. -/
theorem hyphenate_eq_self {s : List Char} (h : ∀ c ∈ s, IsTagChar c) : hyphenate previous s = s := by
  induction s generalizing previous with
  | nil => rfl
  | cons c rest ih =>
    obtain ⟨hc, hrest⟩ := List.forall_mem_cons.1 h
    obtain ⟨hupper, hlower⟩ := hc.isUpper_lower
    have hstart : startsWord previous c rest.head? = false := by
      cases previous with
      | none => rfl
      | some p => rw [startsWord, hupper, Bool.false_and]
    rw [hyphenate, hstart, hlower, ih hrest]
    rfl

/-! ## Words of letters and digits -/

/-- Among letters and digits, an upper-case letter starts a word behind a lower-case letter or a
digit, and behind an upper-case letter where a lower-case letter follows. -/
theorem startsWord_iff {p c : Char} {next : Option Char} (hp : p.isAlphanum = true)
    (hc : c.isAlphanum = true) (hnext : ∀ d, next = some d → d.isAlphanum = true) :
    startsWord (some p) c next = true ↔ c.isUpper = true ∧
      (p.isLower = true ∨ p.isDigit = true ∨
        p.isUpper = true ∧ ∃ d, next = some d ∧ d.isLower = true) := by
  rw [startsWord, isUpper_eq_of_isAlphanum hc, isUpper_eq_of_isAlphanum hp,
    isLower_eq_of_isAlphanum hp]
  cases next with
  | none => simp
  | some d => simp [isLower_eq_of_isAlphanum (hnext d rfl), or_assoc]

theorem isUpper_of_startsWord {c : Char} {next : Option Char} (hc : c.isAlphanum = true)
    (h : startsWord previous c next = true) : c.isUpper = true := by
  cases previous with
  | none => cases h
  | some p => exact isUpper_eq_of_isAlphanum hc ▸ (Bool.and_eq_true_iff.1 h).1

/-- An upper-case letter is nothing else. -/
theorem isLower_isDigit_of_isUpper {c : Char} (h : c.isUpper = true) :
    c.isLower = false ∧ c.isDigit = false :=
  of_isAscii (p := fun c => c.isUpper = true → c.isLower = false ∧ c.isDigit = false)
    (by decide +kernel) (isAscii_of_isAlphanum (isAlphanum_iff.2 (.inl h))) h

/-- Where a hyphen stands between two letters or digits. -/
theorem hyphenBetween_iff {u v : List Char} {p c : Char}
    (h : ∀ d ∈ u ++ p :: c :: v, d.isAlphanum = true) :
    HyphenBefore (hyphenate none (u ++ p :: c :: v)) (u.length + 1) ↔ c.isUpper = true ∧
      (p.isLower = true ∨ p.isDigit = true ∨
        p.isUpper = true ∧ ∃ d, v.head? = some d ∧ d.isLower = true) := by
  have hsplit : u ++ p :: c :: v = (u ++ [p]) ++ c :: v := by simp
  have hp : p.isAlphanum = true := h p (by simp)
  have hc : c.isAlphanum = true := h c (by simp)
  have hnext : ∀ d, v.head? = some d → d.isAlphanum = true := fun d hd =>
    h d (by simp [List.mem_of_head? hd])
  rw [hsplit] at h ⊢
  rw [← startsWord_iff hp hc hnext, ← List.length_singleton (a := p), ← List.length_append,
    hyphenBefore_hyphenate_iff h, List.getLast?_concat, Option.some_or]

/-- Within a run of upper-case letters there is a hyphen only before the last of them, and there
exactly if a lower-case letter follows. -/
theorem hyphenBefore_run_iff {u run rest v : List Char} {c : Char}
    (h : ∀ d ∈ u ++ (run ++ c :: rest) ++ v, d.isAlphanum = true) (hrun : run ≠ [])
    (hupper : ∀ d ∈ run ++ c :: rest, d.isUpper = true) :
    HyphenBefore (hyphenate none (u ++ (run ++ c :: rest) ++ v)) (u ++ run).length ↔
      rest = [] ∧ ∃ d, v.head? = some d ∧ d.isLower = true := by
  obtain ⟨init, p, rfl⟩ : ∃ init p, run = init ++ [p] :=
    ⟨_, _, (List.dropLast_concat_getLast hrun).symm⟩
  have hsplit : u ++ ((init ++ [p]) ++ c :: rest) ++ v = (u ++ init) ++ p :: c :: (rest ++ v) := by
    simp
  have hlength : (u ++ (init ++ [p])).length = (u ++ init).length + 1 := by simp [Nat.add_assoc]
  have hp : p.isUpper = true := hupper p (by simp)
  obtain ⟨hlower, hdigit⟩ := isLower_isDigit_of_isUpper hp
  rw [hsplit] at h ⊢
  rw [hlength, hyphenBetween_iff h, hupper c (by simp), hlower, hdigit, hp]
  cases rest with
  | nil => simp
  | cons e rest =>
    -- a further letter of the run is no lower-case letter
    have he := (isLower_isDigit_of_isUpper (hupper e (by simp))).1
    simp [he]

/-- The hyphenated form of a name of letters and digits is the name in lower case with single hyphens
inside it. Each stands before a letter that is in upper case in the name; such a letter has one
behind a lower-case letter or a digit, and behind another upper-case letter only at the end of a run
with a lower-case letter behind it. A hyphenated name stays as it is. -/
theorem hyphenated_names (name : String) (h : ∀ c ∈ name.toList, c.isAlphanum = true) :
    (∀ c ∈ (kebabCase name).toList, c.isLower = true ∨ c.isDigit = true ∨ c = '-') ∧
    withoutHyphens (kebabCase name).toList = name.toLower.toList ∧
    ((kebabCase name).toList.head? ≠ some '-' ∧ (kebabCase name).toList.getLast? ≠ some '-' ∧
      ¬ ['-', '-'] <:+: (kebabCase name).toList) ∧
    (∀ before after, (kebabCase name).toList = before ++ '-' :: after →
      ∃ c, name.toList[(withoutHyphens before).length]? = some c ∧ c.isUpper = true ∧
        after.head? = some c.toLower) ∧
    (∀ u p c v, name.toList = u ++ p :: c :: v → c.isUpper = true →
      (p.isLower = true ∨ p.isDigit = true) →
      HyphenBefore (kebabCase name).toList (u ++ [p]).length) ∧
    (∀ u run c rest v, name.toList = u ++ (run ++ c :: rest) ++ v → run ≠ [] →
      (∀ d ∈ run ++ c :: rest, d.isUpper = true) →
      (HyphenBefore (kebabCase name).toList (u ++ run).length ↔
        rest = [] ∧ ∃ d, v.head? = some d ∧ d.isLower = true)) ∧
    kebabCase (kebabCase name) = kebabCase name := by
  have hout : (kebabCase name).toList = hyphenate none name.toList := String.toList_ofList
  have htag : ∀ c ∈ (kebabCase name).toList, IsTagChar c := fun c hc =>
    isTagChar_of_mem_hyphenate h (hout ▸ hc)
  have hself : kebabCase (kebabCase name) = kebabCase name := by
    rw [kebabCase, hyphenate_eq_self htag, String.ofList_toList]
  rw [hout]
  refine ⟨hout ▸ htag, ?_, ⟨head?_hyphenate_ne h, getLast?_hyphenate_ne h, not_infix_hyphenate h⟩,
    fun before after heq => ?_, fun u p c v heq hc hp => ?_,
    fun u run c rest v heq hrun hupper => ?_, hself⟩
  · have hlower : name.toLower.toList = name.toList.map Char.toLower := String.toList_map
    rw [withoutHyphens_hyphenate h, hlower]
  · obtain ⟨u, c, v, hname, hu, hstart, hafter⟩ := exists_letter_of_hyphen h heq
    refine ⟨c, ?_, isUpper_of_startsWord (h c (by simp [hname])) hstart, hafter⟩
    rw [hu, hname, List.length_map, List.getElem?_append_right (Nat.le_refl _), Nat.sub_self]
    rfl
  · rw [heq] at h ⊢
    rw [List.length_append, List.length_singleton, hyphenBetween_iff h]
    exact ⟨hc, hp.imp_right .inl⟩
  · rw [heq] at h ⊢
    exact hyphenBefore_run_iff h hrun hupper

/-- Hyphens stand within the run `HTTPC` only before its last letter, and before each letter behind a
lower-case letter or a digit. -/
theorem hyphenated_names_client :
    (∀ c ∈ "HTTPClientV2Api".toList, c.isAlphanum = true) ∧
      kebabCase "HTTPClientV2Api" = "http-client-v2-api" ∧
      ¬ HyphenBefore (kebabCase "HTTPClientV2Api").toList 3 ∧
      HyphenBefore (kebabCase "HTTPClientV2Api").toList 4 ∧
      HyphenBefore (kebabCase "HTTPClientV2Api").toList 12 := by
  have hname : ∀ c ∈ "HTTPClientV2Api".toList, c.isAlphanum = true := by simp
  obtain ⟨-, -, -, -, hbehind, hrun, -⟩ := hyphenated_names "HTTPClientV2Api" hname
  have hinside := hrun [] "HTT".toList 'P' "C".toList "lientV2Api".toList (by decide +kernel)
    (by decide) (by simp)
  have hend := hrun [] "HTTP".toList 'C' [] "lientV2Api".toList (by decide +kernel) (by decide)
    (by simp)
  refine ⟨hname, by decide +kernel, fun h => ?_, hend.2 ⟨rfl, 'l', by decide +kernel⟩, ?_⟩
  · exact absurd (hinside.1 h).1 (by decide)
  · exact hbehind "HTTPClientV".toList '2' 'A' "pi".toList (by decide +kernel) (by decide)
      (.inr (by decide))

end ApiContract
