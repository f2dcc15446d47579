import ShaderBundle.Proofs.Text.Blanks
import ShaderBundle.RenderState.Comment
import Mathlib.Data.List.Infix
/-!
# Finding directive comments

A directive has a head, which names its key, and a body, which holds its value and is closed by the first
end of a comment in it. Whether a start of a comment starts a directive is therefore decided by the text up
to that end. So a text can be scanned in two parts, unless a directive that starts in the first part ends in
the second.
-/

namespace ShaderBundle

/-- Two characters that follow each other in joined texts do so in one of the two, or where they join. -/
theorem Text.pair_infix_append {x y : Char} {front back : Text} (joined : [x, y] <:+: front ++ back) :
    [x, y] <:+: front ∨ [x, y] <:+: back ∨ front.getLast? = some x ∧ back.head? = some y := by
  obtain inFront | inBack | ⟨left, right, parts, ends, starts⟩ := List.infix_append_iff.1 joined
  · exact .inl inFront
  · exact .inr (.inl inBack)
  · -- the two characters are parted after none of them, after the first, or after both
    match left, parts with
    | [], parts => exact .inr (.inl (parts ▸ starts.isInfix))
    | [c], parts =>
      obtain ⟨rfl, rfl⟩ : x = c ∧ [y] = right := by simpa using parts
      obtain ⟨before, rfl⟩ := ends
      obtain ⟨behind, rfl⟩ := starts
      exact .inr (.inr ⟨List.getLast?_concat, rfl⟩)
    | c :: d :: left, parts =>
      obtain ⟨rfl, rfl, rfl, _⟩ : x = c ∧ y = d ∧ left = [] ∧ right = [] := by simpa using parts
      exact .inl ends.isInfix

namespace Key

/-- Each key is read where its word stands. -/
theorem leading?_append (key : Key) (rest : Text) :
    leading? (key.word.toList ++ rest) = some (key, rest) := by
  cases key <;> rfl

/-- A key is read where its word stands, and nowhere else. -/
theorem leading?_eq_some_iff {t rest : Text} {key : Key} :
    leading? t = some (key, rest) ↔ t = key.word.toList ++ rest := by
  constructor
  · intro leading
    obtain ⟨candidate, _, start⟩ := List.exists_of_findSome?_eq_some leading
    obtain ⟨_, start, pair⟩ := Option.map_eq_some_iff.1 start
    cases pair
    exact (List.append_eq_of_isPrefixOf?_eq_some start).symm
  · rintro rfl
    exact leading?_append key rest

/-- The word of a key starts with no blank. -/
theorem isBlank_head?_word (key : Key) (rest : Text) :
    ∀ c ∈ (key.word.toList ++ rest).head?, Text.isBlank c = false := by
  cases key <;> exact fun c first => by cases first; decide

end Key

namespace Comment

variable {t rest more inside front back : Text} {key : Key} {c : Comment}

/-- The start of a comment. -/
def opening : Text := ['/', '*']

/-- The end of a comment. -/
def closing : Text := ['*', '/']

/-- The text before the first end of a comment is found. -/
theorem closed?_append_closing (first : ¬ closing <:+: inside ++ ['*']) (rest : Text) :
    closed? (inside ++ closing ++ rest) = some (inside, rest) := by
  induction inside with
  | nil => rfl
  | cons c inside ih =>
    have later : ¬ closing <:+: inside ++ ['*'] := fun early => first (List.infix_cons early)
    have apart : ∀ t', c = '*' → inside ++ closing ++ rest = '/' :: t' → False := by
      rintro t' rfl follows
      cases inside with
      | nil => exact absurd (List.cons.inj follows).1 (by decide)
      | cons d inside =>
        obtain ⟨rfl, _⟩ := List.cons.inj follows
        exact first ⟨[], inside ++ ['*'], rfl⟩
    rw [List.cons_append, List.cons_append, closed?.eq_2 _ _ apart, ih later, Option.map_some]

/-- A comment is closed by the first end of a comment. -/
theorem closed?_eq_some_iff :
    closed? t = some (inside, rest) ↔ t = inside ++ closing ++ rest ∧ ¬ closing <:+: inside ++ ['*'] := by
  constructor
  · intro found
    fun_induction closed? t generalizing inside with
    | case1 r =>
      cases found
      exact ⟨rfl, by decide⟩
    | case2 c t apart ih =>
      obtain ⟨⟨inner, behind⟩, at_tail, same⟩ := Option.map_eq_some_iff.1 found
      cases same
      obtain ⟨rfl, first⟩ := ih at_tail
      refine ⟨rfl, fun early => ?_⟩
      rcases List.infix_cons_iff.1 early with here | later
      · obtain ⟨r, same⟩ := here
        have star : '*' = c := (List.cons.inj same).1
        have behind : '/' :: r = inner ++ ['*'] := (List.cons.inj same).2
        cases inner with
        | nil => exact absurd (List.cons.inj behind).1 (by decide)
        | cons d inner =>
          have slash : '/' = d := (List.cons.inj behind).1
          subst slash
          exact apart _ star.symm rfl
      · exact first later
    | case3 => cases found
  · rintro ⟨rfl, first⟩
    exact closed?_append_closing first rest

/-- A comment is closed if it has an end. -/
theorem isSome_closed?_iff : (closed? t).isSome = true ↔ closing <:+: t := by
  constructor
  · intro found
    obtain ⟨⟨inside, rest⟩, at_end⟩ := Option.isSome_iff_exists.1 found
    obtain ⟨rfl, _⟩ := closed?_eq_some_iff.1 at_end
    exact ⟨inside, rest, rfl⟩
  · intro found
    induction t with
    | nil => exact absurd (List.infix_nil.1 found) (by decide)
    | cons c t ih =>
      by_cases here : closing <+: c :: t
      · obtain ⟨r, same⟩ := here
        rw [← same]
        rfl
      · have apart : ∀ t', c = '*' → t = '/' :: t' → False := by
          rintro t' rfl rfl
          exact here ⟨t', rfl⟩
        rw [closed?.eq_2 _ _ apart, Option.isSome_map]
        exact ih ((List.infix_cons_iff.1 found).resolve_left here)

/-- What follows the text does not change where the comment is closed. -/
theorem closed?_append (found : closed? t = some (inside, rest)) (more : Text) :
    closed? (t ++ more) = some (inside, rest ++ more) := by
  obtain ⟨rfl, first⟩ := closed?_eq_some_iff.1 found
  rw [List.append_assoc]
  exact closed?_append_closing first (rest ++ more)

/-- The head of a directive, up to its colon. -/
def IsHead (key : Key) (head : Text) : Prop :=
  ∃ before after, Text.AllBlank before ∧ Text.AllBlank after ∧
    head = before ++ key.word.toList ++ after ++ [':']

/-- What a directive's head consists of. -/
theorem IsHead.mem_cases {head : Text} (heads : IsHead key head) {x : Char} (listed : x ∈ head) :
    Text.isBlank x = true ∨ x ∈ key.word.toList ∨ x = ':' := by
  obtain ⟨before, after, blank, blank', rfl⟩ := heads
  simp only [List.mem_append, List.mem_singleton] at listed
  obtain ((inBefore | inWord) | inAfter) | colon := listed
  · exact .inl (blank x inBefore)
  · exact .inr (.inl inWord)
  · exact .inl (blank' x inAfter)
  · exact .inr (.inr colon)

/-- A sign that is no blank, no colon and in no key stands in no head. -/
theorem IsHead.not_mem {head : Text} (heads : IsHead key head) {x : Char} (not_blank : Text.isBlank x = false)
    (foreign : ∀ key : Key, x ∉ key.word.toList) (not_colon : x ≠ ':') : x ∉ head := by
  intro listed
  rcases heads.mem_cases listed with blank | inWord | colon
  · rw [blank] at not_blank
    cases not_blank
  · exact foreign key inWord
  · exact not_colon colon

/-- The sign with which markers start stands in no head. -/
theorem IsHead.hash_not_mem {head : Text} (heads : IsHead key head) : '#' ∉ head := by
  have foreign : ∀ key : Key, '#' ∉ key.word.toList := by
    intro key
    cases key <;> decide
  exact heads.not_mem (by decide) foreign (by decide)

/-- The sign with which the end of a comment starts stands in no head. -/
theorem IsHead.star_not_mem {head : Text} (heads : IsHead key head) : '*' ∉ head := by
  have foreign : ∀ key : Key, '*' ∉ key.word.toList := by
    intro key
    cases key <;> decide
  exact heads.not_mem (by decide) foreign (by decide)

/-- The key of a directive, and its body. -/
def headed? (t : Text) : Option (Key × Text) := do
  let (key, t) ← Key.leading? (Text.trimStart t)
  let body ← [':'].isPrefixOf? (Text.trimStart t)
  return (key, body)

/-- The body of a directive is what follows its head. -/
theorem headed?_eq_some_iff {body : Text} :
    headed? t = some (key, body) ↔ ∃ head, IsHead key head ∧ t = head ++ body := by
  simp only [headed?, Option.bind_eq_bind, Option.bind_eq_some_iff, Option.pure_def, Option.some.injEq,
    Prod.mk.injEq, Prod.exists]
  constructor
  · rintro ⟨key', afterKey, leading, body', colon, rfl, rfl⟩
    obtain ⟨before, blank, split⟩ := Text.exists_allBlank_append_trimStart t
    obtain ⟨after, blank', split'⟩ := Text.exists_allBlank_append_trimStart afterKey
    refine ⟨_, ⟨before, after, blank, blank', rfl⟩, ?_⟩
    rw [split, Key.leading?_eq_some_iff.1 leading, split',
      ← List.append_eq_of_isPrefixOf?_eq_some colon]
    simp only [List.append_assoc]
  · rintro ⟨_, ⟨before, after, blank, blank', rfl⟩, rfl⟩
    refine ⟨key, after ++ [':'] ++ body, ?_, body, ?_, rfl, rfl⟩
    · rw [Key.leading?_eq_some_iff]
      simp only [List.append_assoc]
      exact Text.trimStart_append blank (key.isBlank_head?_word _)
    · rw [List.append_assoc, Text.trimStart_append blank' (fun x first => by cases first; decide)]
      rfl

/-- A directive is read by its head and the end of its body. -/
theorem ofOpened?_eq (t : Text) :
    ofOpened? t = (headed? t).bind fun found => (closed? (Text.trimStart found.2)).map fun parts =>
      (⟨found.1, Text.trimEnd parts.1⟩, parts.2) := by
  rw [ofOpened?, headed?]
  cases Key.leading? (Text.trimStart t) with
  | none => rfl
  | some found =>
    simp only [Option.bind_eq_bind, Option.bind_some]
    cases [':'].isPrefixOf? (Text.trimStart found.2) with
    | none => rfl
    | some body =>
      simp only [Option.bind_some, Option.pure_def]
      cases closed? (Text.trimStart body) with
      | none => rfl
      | some parts => rfl

/-- A directive is read where a head is followed by a body that has an end. -/
theorem isSome_ofOpened?_iff :
    (ofOpened? t).isSome = true ↔ ∃ key head body, IsHead key head ∧ t = head ++ body ∧ closing <:+: body := by
  have ends (body : Text) : (closed? (Text.trimStart body)).isSome = true ↔ closing <:+: body := by
    obtain ⟨b, blank, split⟩ := Text.exists_allBlank_append_trimStart body
    rw [isSome_closed?_iff]
    refine ⟨fun found => found.trans ⟨b, [], by rw [List.append_nil]; exact split.symm⟩, fun found => ?_⟩
    rw [split] at found
    rcases Text.pair_infix_append found with inBlanks | behind | ⟨star, _⟩
    · exact absurd (blank '*' (inBlanks.mem (by decide))) (by decide)
    · exact behind
    · exact absurd (blank '*' (List.mem_of_getLast? star)) (by decide)
  constructor
  · intro found
    obtain ⟨parts, read⟩ := Option.isSome_iff_exists.1 found
    rw [ofOpened?_eq] at read
    obtain ⟨⟨key, body⟩, headed, closed⟩ := Option.bind_eq_some_iff.1 read
    obtain ⟨head, heads, rfl⟩ := headed?_eq_some_iff.1 headed
    obtain ⟨parts, at_end, _⟩ := Option.map_eq_some_iff.1 closed
    exact ⟨key, head, body, heads, rfl, (ends body).1 (Option.isSome_iff_exists.2 ⟨parts, at_end⟩)⟩
  · rintro ⟨key, head, body, heads, rfl, found⟩
    rw [ofOpened?_eq, headed?_eq_some_iff.2 ⟨head, heads, rfl⟩, Option.bind_some, Option.isSome_map]
    exact (ends body).2 found

/-- No directive is read where no head is followed by a body that has an end. -/
theorem ofOpened?_eq_none_iff : ofOpened? t = none ↔
    ∀ key head body, IsHead key head → t = head ++ body → ¬ closing <:+: body := by
  rw [← Option.not_isSome_iff_eq_none, isSome_ofOpened?_iff]
  simp only [not_exists, not_and]

/-- What follows the end of a directive does not change how it is read. -/
theorem ofOpened?_append (found : ofOpened? t = some (c, rest)) (more : Text) :
    ofOpened? (t ++ more) = some (c, rest ++ more) := by
  rw [ofOpened?_eq] at found
  obtain ⟨⟨key, body⟩, headed, closed⟩ := Option.bind_eq_some_iff.1 found
  obtain ⟨head, heads, rfl⟩ := headed?_eq_some_iff.1 headed
  obtain ⟨⟨inside, behind⟩, at_end, same⟩ := Option.map_eq_some_iff.1 closed
  cases same
  have filled : Text.trimStart body ≠ [] := by
    intro empty
    rw [empty] at at_end
    cases at_end
  rw [ofOpened?_eq, headed?_eq_some_iff.2 ⟨head, heads, List.append_assoc head body more⟩, Option.bind_some,
    Text.trimStart_append_of_ne_nil filled, closed?_append at_end, Option.map_some]

/-- What follows a directive is the end of the text. -/
theorem suffix_of_ofOpened? (found : ofOpened? t = some (c, rest)) : rest <:+ t := by
  rw [ofOpened?_eq] at found
  obtain ⟨⟨key, body⟩, headed, closed⟩ := Option.bind_eq_some_iff.1 found
  obtain ⟨head, _, rfl⟩ := headed?_eq_some_iff.1 headed
  obtain ⟨⟨inside, behind⟩, at_end, same⟩ := Option.map_eq_some_iff.1 closed
  cases same
  have trimmed : behind <:+ Text.trimStart body := ⟨inside ++ closing, (closed?_eq_some_iff.1 at_end).1.symm⟩
  exact (trimmed.trans (List.dropWhile_suffix _)).trans (List.suffix_append head body)

/-- A text that can be written as the value of a directive. -/
structure IsValue (value : Text) : Prop where
  /-- It has no blanks around it. -/
  trimmed : Text.IsTrimmed value
  /-- There is something. -/
  filled : value ≠ []
  /-- It does not end the comment. -/
  unclosed : ¬ closing <:+: value

/-- A directive that is written with blanks around its value is read with that value. -/
theorem ofOpened?_written {head value b b' : Text} (heads : IsHead key head) (before : Text.AllBlank b)
    (behind : Text.AllBlank b') (written : IsValue value) (rest : Text) :
    ofOpened? (head ++ (b ++ (value ++ b' ++ closing ++ rest))) = some (⟨key, value⟩, rest) := by
  have starts : ∀ c ∈ (value ++ b' ++ closing ++ rest).head?, Text.isBlank c = false := by
    rw [List.append_assoc, List.append_assoc, List.head?_append_of_ne_nil _ written.filled]
    exact written.trimmed.first
  -- the last star of the value and the slash of the closing are parted by the star of the closing
  have first : ¬ closing <:+: value ++ b' ++ ['*'] := by
    intro early
    rcases Text.pair_infix_append early with inside | alone | ⟨_, slash⟩
    · rcases Text.pair_infix_append inside with inValue | inBlanks | ⟨_, slash⟩
      · exact written.unclosed inValue
      · exact absurd (behind '*' (inBlanks.mem (by decide))) (by decide)
      · exact absurd (behind '/' (List.mem_of_head? slash)) (by decide)
    · exact absurd alone (by decide)
    · exact absurd slash (by decide)
  rw [ofOpened?_eq, headed?_eq_some_iff.2 ⟨head, heads, rfl⟩, Option.bind_some,
    Text.trimStart_append before starts, closed?_append_closing first, Option.map_some,
    Text.trimEnd_append behind written.trimmed.last]

/-- A start of a comment with a directive behind it is scanned up to the directive's end. -/
theorem scan_opening_of_some (found : ofOpened? t = some (c, rest)) :
    scan ('/' :: '*' :: t) = c :: scan rest := by
  rw [scan]
  split
  · next found' =>
    rw [found] at found'
    cases found'
    rfl
  · next none' =>
    rw [found] at none'
    cases none'

/-- Any other start of a comment is passed. -/
theorem scan_opening_of_none (none : ofOpened? t = none) : scan ('/' :: '*' :: t) = scan ('*' :: t) := by
  rw [scan]
  split
  · next found' =>
    rw [none] at found'
    cases found'
  · rfl

/-- A character that starts no comment is passed. -/
theorem scan_cons {x : Char} (apart : ¬ opening <+: x :: t) : scan (x :: t) = scan t := by
  rw [scan.eq_3]
  rintro t' rfl rfl
  exact apart ⟨t', rfl⟩

/-- No directive that starts in the first text ends in the second: whatever the start of a comment in the
first text does not make a directive there is none with the second text behind it either. -/
def IsContained (front back : Text) : Prop :=
  ∀ opened, opening ++ opened <:+ front → ofOpened? opened = none → ofOpened? (opened ++ back) = none

/-- Two texts can be scanned one after the other: no directive lies across them, and no start of a comment. -/
structure IsApart (front back : Text) : Prop where
  /-- No directive that starts in the first text ends in the second. -/
  contained : IsContained front back
  /-- No start of a comment is made by the last character of the first text and the first of the second. -/
  seam : ¬ (front.getLast? = some '/' ∧ back.head? = some '*')

/-- The end of a text is as much apart from what follows as the whole text. -/
theorem IsApart.of_suffix (apart : IsApart front back) {ending : Text} (ends : ending <:+ front) :
    IsApart ending back where
  contained opened here none := apart.contained opened (here.trans ends) none
  seam := by
    rintro ⟨slash, star⟩
    obtain ⟨before, rfl⟩ := ends
    exact apart.seam ⟨List.mem_getLast?_append_of_mem_getLast? slash, star⟩

/-- Texts that are apart are scanned one after the other. -/
theorem scan_append (apart : IsApart front back) : scan (front ++ back) = scan front ++ scan back := by
  fun_induction scan front with
  | case1 => rfl
  | case2 t c rest found ih =>
    have ends : rest <:+ '/' :: '*' :: t := (suffix_of_ofOpened? found).trans (List.suffix_append ['/', '*'] t)
    rw [List.cons_append, List.cons_append, scan_opening_of_some (ofOpened?_append found back),
      ih (apart.of_suffix ends), List.cons_append]
  | case3 t none ih =>
    have none' := apart.contained t List.suffix_rfl none
    rw [List.cons_append, List.cons_append, scan_opening_of_none none', ← List.cons_append,
      ih (apart.of_suffix (List.suffix_cons _ _))]
  | case4 x t inside ih =>
    have passed : ¬ opening <+: x :: (t ++ back) := by
      rintro ⟨r, same⟩
      obtain ⟨slash, follows⟩ : '/' = x ∧ '*' :: r = t ++ back := List.cons.inj same
      cases t with
      | nil =>
        have star : back.head? = some '*' := by rw [← List.nil_append back, ← follows]; rfl
        exact apart.seam ⟨by rw [← slash]; rfl, star⟩
      | cons y t => exact inside t slash.symm (by rw [(List.cons.inj follows).1])
    rw [List.cons_append, scan_cons passed, ih (apart.of_suffix (List.suffix_cons _ _))]

/-- A text without a start of a comment is apart from what follows, unless the two make one where they join. -/
theorem isApart_of_not_opening (plain : ¬ opening <:+: front)
    (seam : ¬ (front.getLast? = some '/' ∧ back.head? = some '*')) : IsApart front back where
  contained opened here _ :=
    absurd ((List.prefix_append opening opened).isInfix.trans here.isInfix) plain
  seam := seam

/-- A text without a start of a comment has no directive. -/
theorem scan_eq_nil (plain : ¬ opening <:+: t) : scan t = [] := by
  induction t with
  | nil => exact scan.eq_1
  | cons x t ih =>
    have passed : ¬ opening <+: x :: t := fun here => plain here.isInfix
    rw [scan_cons passed, ih fun later => plain (List.infix_cons later)]

end Comment

end ShaderBundle
