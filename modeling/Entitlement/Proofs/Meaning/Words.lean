import Entitlement.Meaning

/-!
# The words of a segment

A segment is read character by character into a word that is closed in three places: at a
joiner, before an upper-case character, and at the end.  Closing an empty word leaves nothing
behind, so joiners in a row or at either end make no words, and every character that is kept
goes into exactly one word (`flatten_wordsFrom`).

Lower case may turn one character into several, so the places between words are no places of
the segment as it stands.  `CutBehind` names such a place by the text in front of it.  Two
neighbours are parted exactly where they should be: what is read before them goes into words
that are closed or into the current one (`cutBehind_wordsFrom_iff`), and at the place itself
the current word is closed, or else it goes on and covers the place
(`exists_wordsFrom_eq_cons`).  Conversely, wherever words meet, the segment itself falls into
two parts with these words (`exists_append_of_wordsFrom_eq_append`), so no character is cut
through.
-/

namespace Entitlement.Meaning

variable {segment chars current rest before between after text word : List Char}
  {c first second : Char} {others front back : List (List Char)}

/-! ## What a segment spells -/

/-- The characters of a segment that are no joiners, in lower case. -/
def spelling (segment : List Char) : List Char :=
  (segment.filter fun c => !isJoiner c).flatMap Text.lower

theorem spelling_append (chars others : List Char) :
    spelling (chars ++ others) = spelling chars ++ spelling others := by
  unfold spelling
  rw [List.filter_append, List.flatMap_append]

theorem spelling_cons_of_joiner (hjoiner : isJoiner c = true) (rest : List Char) :
    spelling (c :: rest) = spelling rest := by
  unfold spelling
  rw [List.filter_cons_of_neg (by simp [hjoiner])]

theorem spelling_cons_of_kept (hkept : isJoiner c = false) (rest : List Char) :
    spelling (c :: rest) = Text.lower c ++ spelling rest := by
  unfold spelling
  rw [List.filter_cons_of_pos (by simp [hkept]), List.flatMap_cons]

/-- Only joiners spell nothing. -/
theorem spelling_eq_nil_iff : spelling chars = [] ↔ ∀ c ∈ chars, isJoiner c = true := by
  simp [spelling, Text.lower_ne_nil]

theorem exists_first_kept (hne : spelling chars ≠ []) :
    ∃ between second after, chars = between ++ second :: after ∧ isJoiner second = false ∧
      ∀ c ∈ between, isJoiner c = true := by
  induction chars with
  | nil => exact absurd rfl hne
  | cons c rest ih =>
      cases hc : isJoiner c with
      | true =>
          rw [spelling_cons_of_joiner hc] at hne
          obtain ⟨between, second, after, rfl, hkept, hbetween⟩ := ih hne
          exact ⟨c :: between, second, after, rfl, hkept, List.forall_mem_cons.mpr ⟨hc, hbetween⟩⟩
      | false => exact ⟨[], c, rest, rfl, hc, by simp⟩

theorem exists_last_kept (hne : spelling chars ≠ []) :
    ∃ before first between, chars = before ++ first :: between ∧ isJoiner first = false ∧
      ∀ c ∈ between, isJoiner c = true := by
  induction chars with
  | nil => exact absurd rfl hne
  | cons c rest ih =>
      -- The last kept character is in the rest, or the rest is all joiners and it is this one.
      by_cases hrest : spelling rest = []
      · have hjoiners := spelling_eq_nil_iff.mp hrest
        cases hc : isJoiner c with
        | true =>
            rw [spelling_cons_of_joiner hc] at hne
            exact absurd hrest hne
        | false => exact ⟨[], c, rest, rfl, hc, hjoiners⟩
      · obtain ⟨before, first, between, rfl, hkept, hbetween⟩ := ih hrest
        exact ⟨c :: before, first, between, rfl, hkept, hbetween⟩

/-! ## Reading a segment -/

theorem closeWord_of_ne_nil (hbegun : word ≠ []) (others : List (List Char)) :
    closeWord word others = word :: others := by
  unfold closeWord
  rw [if_neg (by simpa using hbegun)]

theorem flatten_closeWord (word : List Char) (others : List (List Char)) :
    (closeWord word others).flatten = word ++ others.flatten := by
  cases word with
  | nil => rfl
  | cons c word => rfl

theorem nil_notMem_closeWord (hothers : [] ∉ others) : [] ∉ closeWord word others := by
  cases word with
  | nil => exact hothers
  | cons c word => simpa [closeWord] using hothers

theorem wordsFrom_of_joiner (hjoiner : isJoiner c = true) (current rest : List Char) :
    wordsFrom current (c :: rest) = closeWord current (wordsFrom [] rest) := by
  rw [wordsFrom, if_pos hjoiner]

theorem wordsFrom_of_upper (hkept : isJoiner c = false) (hupper : Text.isUpper c = true)
    (current rest : List Char) :
    wordsFrom current (c :: rest) = closeWord current (wordsFrom (Text.lower c) rest) := by
  rw [wordsFrom, if_neg (by simp [hkept]), if_pos hupper]

theorem wordsFrom_of_not_upper (hkept : isJoiner c = false) (hupper : Text.isUpper c = false)
    (current rest : List Char) :
    wordsFrom current (c :: rest) = wordsFrom (current ++ Text.lower c) rest := by
  rw [wordsFrom, if_neg (by simp [hkept]), if_neg (by simp [hupper])]

/-- No character is lost and none comes in. -/
theorem flatten_wordsFrom (current rest : List Char) :
    (wordsFrom current rest).flatten = current ++ spelling rest := by
  fun_induction wordsFrom current rest with
  | case1 current => exact flatten_closeWord current []
  | case2 current c rest hjoiner ih =>
      rw [flatten_closeWord, ih, spelling_cons_of_joiner hjoiner, List.nil_append]
  | case3 current c rest hkept hupper ih =>
      rw [flatten_closeWord, ih, spelling_cons_of_kept (by simpa using hkept)]
  | case4 current c rest hkept hupper ih =>
      rw [ih, spelling_cons_of_kept (by simpa using hkept), List.append_assoc]

theorem nil_notMem_wordsFrom (current rest : List Char) : [] ∉ wordsFrom current rest := by
  fun_induction wordsFrom current rest with
  | case1 current => exact nil_notMem_closeWord List.not_mem_nil
  | case2 current c rest hjoiner ih => exact nil_notMem_closeWord ih
  | case3 current c rest hkept hupper ih => exact nil_notMem_closeWord ih
  | case4 current c rest hkept hupper ih => exact ih

/-- A word that has begun is the beginning of the first word. -/
theorem exists_wordsFrom_eq_cons (hbegun : current ≠ []) (rest : List Char) :
    ∃ more others, wordsFrom current rest = (current ++ more) :: others := by
  fun_induction wordsFrom current rest with
  | case1 current => exact ⟨[], [], by rw [closeWord_of_ne_nil hbegun, List.append_nil]⟩
  | case2 current c rest hjoiner ih =>
      exact ⟨[], _, by rw [closeWord_of_ne_nil hbegun, List.append_nil]⟩
  | case3 current c rest hkept hupper ih =>
      exact ⟨[], _, by rw [closeWord_of_ne_nil hbegun, List.append_nil]⟩
  -- Only a character that neither joins nor is upper case makes the word longer.
  | case4 current c rest hkept hupper ih =>
      obtain ⟨more, others, hwords⟩ := ih (by simp [hbegun])
      exact ⟨Text.lower c ++ more, others, by rw [hwords, List.append_assoc]⟩

/-! ## Where neighbours are parted -/

/-- Words are cut behind a text when the text is made up of some of them, from the first on. -/
def CutBehind (words : List (List Char)) (text : List Char) : Prop :=
  ∃ front back, words = front ++ back ∧ front.flatten = text

theorem cutBehind_first (word : List Char) (others : List (List Char)) :
    CutBehind (word :: others) word :=
  ⟨[word], others, rfl, by simp⟩

theorem cutBehind_cons_iff (hne : word ++ text ≠ []) :
    CutBehind (word :: others) (word ++ text) ↔ CutBehind others text := by
  constructor
  · rintro ⟨front, back, hwords, hfront⟩
    cases front with
    | nil => exact absurd hfront.symm hne
    | cons held front =>
        obtain ⟨rfl, rfl⟩ := List.cons.inj hwords
        exact ⟨front, back, rfl, List.append_cancel_left hfront⟩
  · rintro ⟨front, back, rfl, rfl⟩
    exact ⟨word :: front, back, rfl, rfl⟩

/-- A word in front moves a cut by its length. -/
theorem cutBehind_closeWord_iff :
    CutBehind (closeWord word others) (word ++ text) ↔ CutBehind others text := by
  cases word with
  | nil => exact Iff.rfl
  | cons c word => exact cutBehind_cons_iff (by simp)

/-- No cut leads through the first word. -/
theorem not_cutBehind_inside {more : List Char} (hbegun : current ≠ []) (hmore : more ≠ []) :
    ¬ CutBehind ((current ++ more) :: others) current := by
  rintro ⟨front, back, hwords, hfront⟩
  cases front with
  | nil => exact hbegun hfront.symm
  | cons held front =>
      obtain ⟨rfl, rfl⟩ := List.cons.inj hwords
      -- The first word alone is longer already than the text behind which the cut would be.
      have hlength := congrArg List.length hfront
      have hpositive : 0 < more.length := List.length_pos_iff.mpr hmore
      simp only [List.flatten_cons, List.length_append] at hlength
      omega

/-- Behind a word that has begun, the next character starts another one after joiners or in
upper case. -/
theorem cutBehind_begun_iff (hbegun : current ≠ []) (hjoiners : ∀ c ∈ between, isJoiner c = true)
    (hkept : isJoiner second = false) (after : List Char) :
    CutBehind (wordsFrom current (between ++ second :: after)) current ↔
      between ≠ [] ∨ Text.isUpper second = true := by
  cases between with
  | cons c between =>
      rw [List.cons_append, wordsFrom_of_joiner (hjoiners c (List.mem_cons_self ..)),
        closeWord_of_ne_nil hbegun]
      exact iff_of_true (cutBehind_first ..) (Or.inl (List.cons_ne_nil c between))
  | nil =>
      rw [List.nil_append]
      cases hupper : Text.isUpper second with
      | true =>
          rw [wordsFrom_of_upper hkept hupper, closeWord_of_ne_nil hbegun]
          exact iff_of_true (cutBehind_first ..) (Or.inr rfl)
      | false =>
          rw [wordsFrom_of_not_upper hkept hupper]
          -- The word goes on with the second character, so there is no cut between the two.
          have hlonger : current ++ Text.lower second ≠ [] := by simp [hbegun]
          obtain ⟨more, others, hwords⟩ := exists_wordsFrom_eq_cons hlonger after
          rw [hwords, List.append_assoc]
          refine iff_of_false (not_cutBehind_inside hbegun ?_) (by simp)
          simp [Text.lower_ne_nil]

/-- Whatever is read before them, two neighbours are parted by joiners or by the upper case of
the second. -/
theorem cutBehind_wordsFrom_iff (hfirst : isJoiner first = false)
    (hjoiners : ∀ c ∈ between, isJoiner c = true) (hsecond : isJoiner second = false)
    (current before after : List Char) :
    CutBehind (wordsFrom current (before ++ first :: (between ++ second :: after)))
        (current ++ spelling (before ++ [first])) ↔
      between ≠ [] ∨ Text.isUpper second = true := by
  -- A word that is closed on the way stands in front of the place and does not move it.
  induction before generalizing current with
  | nil =>
      -- From the first of the two on, a word has begun with it.
      have hspelling : spelling ([] ++ [first]) = Text.lower first := by
        rw [List.nil_append, spelling_cons_of_kept hfirst]
        exact List.append_nil _
      have hbegun := Text.lower_ne_nil first
      rw [hspelling, List.nil_append]
      cases hupper : Text.isUpper first with
      | true =>
          rw [wordsFrom_of_upper hfirst hupper, cutBehind_closeWord_iff]
          exact cutBehind_begun_iff hbegun hjoiners hsecond after
      | false =>
          rw [wordsFrom_of_not_upper hfirst hupper]
          exact cutBehind_begun_iff (by simp [hbegun]) hjoiners hsecond after
  | cons c before ih =>
      rw [List.cons_append, List.cons_append]
      cases hjoiner : isJoiner c with
      | true =>
          rw [wordsFrom_of_joiner hjoiner, spelling_cons_of_joiner hjoiner,
            cutBehind_closeWord_iff]
          exact ih []
      | false =>
          rw [spelling_cons_of_kept hjoiner]
          cases hupper : Text.isUpper c with
          | true =>
              rw [wordsFrom_of_upper hjoiner hupper, cutBehind_closeWord_iff]
              exact ih (Text.lower c)
          | false =>
              rw [wordsFrom_of_not_upper hjoiner hupper, ← List.append_assoc]
              exact ih (current ++ Text.lower c)

/-! ## Where words meet -/

/-- Words of which the first is closed fall apart where the words behind it do. -/
theorem exists_of_closeWord_eq_append (hwords : closeWord word others = front ++ back)
    (hfront : front = [] → word = []) :
    ∃ further, front = closeWord word further ∧ others = further ++ back := by
  cases word with
  | nil => exact ⟨front, rfl, hwords⟩
  | cons c word =>
      cases front with
      | nil => exact absurd (hfront rfl) (List.cons_ne_nil c word)
      | cons held front =>
          obtain ⟨rfl, rfl⟩ := List.cons.inj hwords
          exact ⟨front, rfl, rfl⟩

/-- Where words meet, what is read falls into a part that is read into the words in front and
one with the words behind. -/
theorem exists_append_of_wordsFrom_eq_append (hwords : wordsFrom current rest = front ++ back)
    (hfront : front = [] → current = []) :
    ∃ earlier later, rest = earlier ++ later ∧ wordsFrom current earlier = front ∧
      words later = back := by
  -- The words in front lose the first one as soon as it is closed, so both lists vary.
  induction rest generalizing current front with
  | nil =>
      obtain ⟨further, rfl, hothers⟩ := exists_of_closeWord_eq_append hwords hfront
      obtain ⟨rfl, rfl⟩ := List.append_eq_nil_iff.mp hothers.symm
      exact ⟨[], [], rfl, rfl, rfl⟩
  | cons c rest ih =>
      cases hjoiner : isJoiner c with
      | true =>
          rw [wordsFrom_of_joiner hjoiner] at hwords
          obtain ⟨further, rfl, hothers⟩ := exists_of_closeWord_eq_append hwords hfront
          obtain ⟨earlier, later, rfl, rfl, hlater⟩ := ih hothers fun _ => rfl
          exact ⟨c :: earlier, later, rfl, wordsFrom_of_joiner hjoiner .., hlater⟩
      | false =>
          cases hupper : Text.isUpper c with
          | true =>
              rw [wordsFrom_of_upper hjoiner hupper] at hwords
              obtain ⟨further, rfl, hothers⟩ := exists_of_closeWord_eq_append hwords hfront
              by_cases hnone : further = []
              · -- The words meet in front of the character.
                subst hnone
                refine ⟨[], c :: rest, rfl, rfl, ?_⟩
                exact (wordsFrom_of_upper hjoiner hupper ..).trans hothers
              · obtain ⟨earlier, later, rfl, rfl, hlater⟩ := ih hothers fun h => absurd h hnone
                exact ⟨c :: earlier, later, rfl, wordsFrom_of_upper hjoiner hupper .., hlater⟩
          | false =>
              -- The words meet in front of the character, or it belongs to the words in front.
              by_cases hnone : front = []
              · obtain rfl := hfront hnone
                subst hnone
                exact ⟨[], c :: rest, rfl, rfl, hwords⟩
              · rw [wordsFrom_of_not_upper hjoiner hupper] at hwords
                obtain ⟨earlier, later, rfl, rfl, hlater⟩ := ih hwords fun h => absurd h hnone
                exact ⟨c :: earlier, later, rfl, wordsFrom_of_not_upper hjoiner hupper .., hlater⟩

/-! ## Neighbours -/

/-- Two characters of a segment that are kept, and between them joiners only. -/
structure Neighbours (segment : List Char) where
  before : List Char
  first : Char
  between : List Char
  second : Char
  after : List Char
  eq_append : segment = before ++ first :: (between ++ second :: after)
  first_kept : isJoiner first = false
  joiners : ∀ c ∈ between, isJoiner c = true
  second_kept : isJoiner second = false

/-- What the segment spells up to the first of two neighbours. -/
def Neighbours.reach (pair : Neighbours segment) : List Char :=
  spelling (pair.before ++ [pair.first])

theorem flatten_words (segment : List Char) : (words segment).flatten = spelling segment := by
  rw [words, flatten_wordsFrom, List.nil_append]

theorem spelling_ne_nil_of_words (hne : words chars ≠ []) : spelling chars ≠ [] := by
  rw [← flatten_words]
  intro hnil
  obtain ⟨word, hword⟩ := List.exists_mem_of_ne_nil _ hne
  obtain rfl := List.flatten_eq_nil_iff.mp hnil word hword
  exact nil_notMem_wordsFrom [] chars hword

/-- Where words meet, two neighbours are parted. -/
theorem exists_neighbours (hwords : words segment = front ++ back) (hfront : front ≠ [])
    (hback : back ≠ []) : ∃ pair : Neighbours segment, front.flatten = pair.reach := by
  obtain ⟨earlier, later, rfl, rfl, rfl⟩ :=
    exists_append_of_wordsFrom_eq_append hwords fun h => absurd h hfront
  -- Of the part in front the last kept character, of the part behind the first one.
  obtain ⟨before, first, ending, rfl, hfirst, hending⟩ :=
    exists_last_kept (spelling_ne_nil_of_words hfront)
  obtain ⟨beginning, second, after, rfl, hsecond, hbeginning⟩ :=
    exists_first_kept (spelling_ne_nil_of_words hback)
  have hreach : (words (before ++ first :: ending)).flatten = spelling (before ++ [first]) := by
    have hsilent : spelling ending = [] := spelling_eq_nil_iff.mpr hending
    rw [flatten_words, List.append_cons, spelling_append, hsilent, List.append_nil]
  have hjoiners : ∀ c ∈ ending ++ beginning, isJoiner c = true := by
    intro c hc
    rcases List.mem_append.mp hc with hmem | hmem
    · exact hending c hmem
    · exact hbeginning c hmem
  exact ⟨⟨before, first, ending ++ beginning, second, after, by simp, hfirst, hjoiners, hsecond⟩,
    hreach⟩

/-- **Words part a segment at its joiners and before its capitals, and nowhere else.**  No word
is empty, and the words one after the other are what the segment spells: its characters without
the joiners, each in lower case.  Two neighbours, that is two characters with nothing but
joiners between them, belong to different words exactly when there is a joiner between them or
the second is upper case; and wherever words meet, they part two neighbours. -/
theorem words_part_at_joiners_and_capitals (segment : List Char) :
    (∀ word ∈ words segment, word ≠ []) ∧
    (words segment).flatten = (segment.filter fun c => !isJoiner c).flatMap Text.lower ∧
    (∀ pair : Neighbours segment, CutBehind (words segment) pair.reach ↔
      pair.between ≠ [] ∨ Text.isUpper pair.second = true) ∧
    ∀ front back, words segment = front ++ back → front ≠ [] → back ≠ [] →
      ∃ pair : Neighbours segment, front.flatten = pair.reach := by
  refine ⟨?_, flatten_words segment, ?_, ?_⟩
  · rintro word hword rfl
    exact nil_notMem_wordsFrom [] segment hword
  · intro pair
    obtain ⟨before, first, between, second, after, rfl, hfirst, hjoiners, hsecond⟩ := pair
    exact cutBehind_wordsFrom_iff hfirst hjoiners hsecond [] before after
  · intro front back hwords hfront hback
    exact exists_neighbours hwords hfront hback

/-- A joiner parts `user` from what follows, every capital behind it starts a word, and the last
word goes on in small letters; two neighbours are parted where the words are taken apart. -/
theorem user_is_parted_from_api_keys :
    CutBehind (words "user_APIKeys".toList) "user".toList ∧
    CutBehind (words "user_APIKeys".toList) "userapi".toList ∧
    ¬ CutBehind (words "user_APIKeys".toList) "userapik".toList ∧
    ∃ pair : Neighbours "user_APIKeys".toList,
      ["user".toList, "a".toList].flatten = pair.reach := by
  have hparts := words_part_at_joiners_and_capitals "user_APIKeys".toList
  refine ⟨?_, ?_, ?_, ?_⟩
  · exact (hparts.2.2.1 ⟨"use".toList, 'r', ['_'], 'A', "PIKeys".toList, by decide, by decide,
      by simp [isJoiner], by decide⟩).mpr (by decide)
  · exact (hparts.2.2.1 ⟨"user_AP".toList, 'I', [], 'K', "eys".toList, by decide, by decide,
      List.forall_mem_nil _, by decide⟩).mpr (by decide)
  · have hjoined := hparts.2.2.1 ⟨"user_API".toList, 'K', [], 'e', "ys".toList, by decide,
      by decide, List.forall_mem_nil _, by decide⟩
    intro hcut
    exact absurd (hjoined.mp hcut) (by decide)
  · exact hparts.2.2.2 _ ["p".toList, "i".toList, "keys".toList] (by decide) (by decide) (by decide)

example : words "__user_APIKeys-".toList = ["user", "a", "p", "i", "keys"].map String.toList := by
  decide

end Entitlement.Meaning
