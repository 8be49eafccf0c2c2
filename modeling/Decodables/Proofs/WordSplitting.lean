/-
  Decodables.Proofs.WordSplitting — a derived name by the words of its key.

  The words of a text are its longest runs of characters that are no separators. Raising
  goes through a text once: it looks behind a run of separators for the character to raise,
  and at the end of the text takes a separator for it. As long as raising turns no name
  character into a separator and no separator into a name character, all of that comes to
  joining the words, each but the first with its first character in uppercase.

  Proved, over all keys whose characters keep their side, and both styles:
  - `raiseFrom_words`: what the pass leaves behind separators, and what it leaves from
    inside a word.
  - `steady_iff`: the characters keep their side unless there is a stray letter.
  - `derive_eq_words`: a derived name is that of the joined words. It does not depend on
    which separators stand between words or how many, nor on any at the end.
-/

import Decodables.Proofs.Derivation

namespace Decodables.Identifier

open Unicode

/-! ## Words -/

/-- The longest runs of characters that are no separators. -/
def words (s : List Char) : List (List Char) := (s.splitOnP isSeparator).filter fun w => !w.isEmpty

def raiseWord : List Char → List Char
  | [] => []
  | c :: rest => uppercase c ++ rest

def joined : List (List Char) → List Char
  | [] => []
  | first :: others => first ++ others.flatMap raiseWord

/-- Raising turns no name character into a separator, and no separator into a name character. -/
def Steady (s : List Char) : Prop := ∀ c ∈ s, ∀ x ∈ uppercase c, isSeparator x = isSeparator c

instance (s : List Char) : Decidable (Steady s) :=
  decidable_of_iff (s.all fun c => (uppercase c).all fun x => isSeparator x == isSeparator c) (by simp [Steady])

theorem Steady.of_cons {c : Char} {s : List Char} (h : Steady (c :: s)) : Steady s :=
  fun d hd => h d (List.mem_cons_of_mem _ hd)

theorem Steady.of_subset {s t : List Char} (h : Steady t) (sub : s ⊆ t) : Steady s := fun c hc => h c (sub hc)

theorem Steady.append {s t : List Char} (hs : Steady s) (ht : Steady t) : Steady (s ++ t) := by
  intro c hc
  rcases List.mem_append.mp hc with hc | hc
  · exact hs c hc
  · exact ht c hc

/-- The stray letters are the only ones that change sides. -/
theorem steady_iff {s : List Char} : Steady s ↔ ∀ c ∈ s, c ∉ strayLetters := by
  constructor
  · intro steady c hc stray
    obtain ⟨x, raised, unnamed⟩ := stray_form stray
    have named : ∀ d ∈ strayLetters, isNameChar d := List.all_eq_true.mp (by decide +kernel)
    have given : uppercase c = [x] := raised
    have moved := steady c hc x (given ▸ List.mem_singleton.mpr rfl)
    simp [isSeparator, unnamed, named c stray] at moved
  · intro home c hc x hx
    by_cases h : isSeparator c = true
    · rw [h]
      exact form_separator h x hx
    · have named : isNameChar c := by simpa [isSeparator] using h
      have kept : Kept .pascal c := (kept_iff named).mpr fun stray => home c hc stray.2
      simp [isSeparator, named, kept.spelled x hx]

theorem words_nil : words [] = [] := by simp [words]

/-- A name character goes to the first piece between separators. -/
theorem splitOnP_cons_name {c : Char} (h : isNameChar c) {s first : List Char} {others : List (List Char)}
    (pieces : s.splitOnP isSeparator = first :: others) : (c :: s).splitOnP isSeparator = (c :: first) :: others := by
  have inside : ¬ isSeparator c = true := by simp [isSeparator, h]
  rw [List.splitOnP_cons_eq_if_modifyHead, if_neg inside, pieces]
  rfl

theorem words_cons_name {c : Char} (h : isNameChar c) {s first : List Char} {others : List (List Char)}
    (pieces : s.splitOnP isSeparator = first :: others) :
    words (c :: s) = (c :: first) :: others.filter fun w => !w.isEmpty := by
  rw [words, splitOnP_cons_name h pieces, List.filter_cons_of_pos rfl]

theorem words_cons_separator {c : Char} (h : isSeparator c) (s : List Char) : words (c :: s) = words s := by
  simp [words, List.splitOnP_cons_eq_if_modifyHead, h]

theorem words_separators {s : List Char} (h : ∀ c ∈ s, isSeparator c) (rest : List Char) :
    words (s ++ rest) = words rest := by
  induction s with
  | nil => rfl
  | cons c s ih =>
    rw [List.cons_append, words_cons_separator (h c (List.mem_cons_self ..))]
    exact ih fun d hd => h d (List.mem_cons_of_mem _ hd)

/-- Separators between two texts keep the words of both apart. -/
theorem words_gap {gap : List Char} (some_gap : gap ≠ []) (h : ∀ c ∈ gap, isSeparator c) (s t : List Char) :
    words (s ++ gap ++ t) = words s ++ words t := by
  obtain ⟨c, more, rfl⟩ := List.exists_cons_of_ne_nil some_gap
  have others : words (more ++ t) = words t := words_separators (fun d hd => h d (List.mem_cons_of_mem _ hd)) t
  rw [List.append_assoc, List.cons_append, words, List.splitOnP_append_cons _ _ (h c (List.mem_cons_self ..)),
    List.filter_append, ← others]
  rfl

/-! ## The pass over a text -/

/-- What becomes of separators at the end of a text are separators. -/
theorem closeRun_separators {run : List Char} (h : ∀ c ∈ run, isSeparator c) (steady : Steady run) :
    ∀ x ∈ closeRun run, isSeparator x := by
  intro x hx
  unfold closeRun at hx
  split at hx
  · rename_i c before rest kept
    have held : c ∈ run := by
      have : c ∈ run.dropWhile (· == '\n') := by
        rw [kept]
        exact List.mem_cons_self ..
      exact (List.dropWhile_suffix _).subset this
    rcases List.mem_append.mp hx with hx | hx
    · rw [steady c held x hx]
      exact h c held
    · exact h x ((List.takeWhile_prefix _).subset hx)
  · exact h x (List.mem_reverse.mp hx)

/-- Behind separators every word is raised; from inside a word on, every word but the one
    that goes on. -/
theorem raiseFrom_words {s : List Char} (steady : Steady s) :
    (∀ run, run ≠ [] → (∀ c ∈ run, isSeparator c) → Steady run →
      (raiseFrom run s).filter isNameChar = (words s).flatMap raiseWord) ∧
      ∀ first others, s.splitOnP isSeparator = first :: others →
        (raise s).filter isNameChar = first ++ (others.filter fun w => !w.isEmpty).flatMap raiseWord := by
  -- A separator leads from the second statement to the first, and a name character back.
  induction s with
  | nil =>
    constructor
    · intro run _ separators steady
      rw [words_nil, raiseFrom, List.filter_eq_nil_iff.mpr]
      · rfl
      · intro x hx
        simpa [isSeparator] using closeRun_separators separators steady x hx
    · intro first others pieces
      rw [List.splitOnP_nil] at pieces
      cases pieces
      rfl
  | cons c s ih =>
    obtain ⟨behind, inside⟩ := ih steady.of_cons
    by_cases h : isSeparator c = true
    · have longer : ∀ run, (∀ d ∈ run, isSeparator d) → Steady run →
          (raiseFrom (c :: run) s).filter isNameChar = (words s).flatMap raiseWord := by
        intro run separators steady'
        refine behind (c :: run) (List.cons_ne_nil _ _) ?_ ?_
        · intro d hd
          rcases List.mem_cons.mp hd with rfl | hd
          · exact h
          · exact separators d hd
        · intro d hd
          rcases List.mem_cons.mp hd with rfl | hd
          · exact steady d (List.mem_cons_self ..)
          · exact steady' d hd
      constructor
      · intro run _ separators steady'
        simp only [raiseFrom, h, if_true, words_cons_separator h]
        exact longer run separators steady'
      · intro first others pieces
        rw [List.splitOnP_cons_eq_if_modifyHead, if_pos h, List.cons.injEq] at pieces
        obtain ⟨rfl, rfl⟩ := pieces
        simp only [raise, raiseFrom, h, if_true, List.nil_append]
        exact longer [] (List.forall_mem_nil _) (List.forall_mem_nil _)
    · have named : isNameChar c := by simpa [isSeparator] using h
      obtain ⟨first', others', pieces'⟩ := List.exists_cons_of_ne_nil (List.splitOnP_ne_nil isSeparator s)
      have rest := inside first' others' pieces'
      constructor
      · intro run some_run _ _
        have raised : (uppercase c).filter isNameChar = uppercase c := by
          refine List.filter_eq_self.mpr fun x hx => ?_
          have := steady c (List.mem_cons_self ..) x hx
          simpa [isSeparator, named] using this
        have further : ¬ run.isEmpty = true := by simpa using some_run
        rw [raiseFrom, if_neg h, if_neg further, List.filter_append, raised, words_cons_name named pieces',
          List.flatMap_cons, raiseWord, List.append_assoc]
        exact congrArg (uppercase c ++ ·) rest
      · intro first others pieces
        rw [splitOnP_cons_name named pieces', List.cons.injEq] at pieces
        obtain ⟨rfl, rfl⟩ := pieces
        rw [raise_cons_name named, List.filter_cons_of_pos named, rest]
        rfl

/-! ## Derived names -/

/-- The name is that of the words joined, in the case of the style. -/
theorem derive_joined (style : Style) {key : String} (steady : Steady key.toList) :
    derive style key = String.ofList (recase style (joined (words (strip key.toList)))) := by
  cases h : strip key.toList with
  | nil =>
    rw [derive_nil h, words_nil]
    rfl
  | cons c rest =>
    have named := isNameChar_of_isLeading (isLeading_of_strip h)
    have kept : Steady (strip key.toList) := steady.of_subset (List.dropWhile_suffix _).subset
    obtain ⟨first, others, pieces⟩ := List.exists_cons_of_ne_nil (List.splitOnP_ne_nil isSeparator rest)
    have passed := (raiseFrom_words (h ▸ kept).of_cons).2 first others pieces
    rw [derive_cons h, passed, words_cons_name named pieces, joined, List.cons_append, recase_cons]

theorem strip_append_leading {s : List Char} (h : ∃ c ∈ s, isLeading c) (t : List Char) :
    strip (s ++ t) = strip s ++ t := by
  obtain ⟨c, hc, leads⟩ := h
  have some_left : ¬ (s.dropWhile fun c => !isLeading c).isEmpty = true := by
    intro none_left
    have dropped := strip_eq_nil_iff.mp (List.isEmpty_iff.mp none_left) c hc
    rw [leads] at dropped
    cases dropped
  rw [strip, List.dropWhile_append, if_neg some_left]
  rfl

theorem not_leading_of_separator {c : Char} (h : isSeparator c) : isLeading c = false := by
  simp only [isSeparator, isNameChar, Bool.not_eq_true', Bool.or_eq_false_iff] at h
  exact h.1

/-- The name that a key derives is that of its words, joined, in the case of the style. Any
    other separators between two words, however many, give the same name, and so do any
    separators at the end. -/
theorem derive_eq_words (style : Style) {key : String} (steady : Steady key.toList) :
    derive style key = String.ofList (recase style (joined (words (strip key.toList)))) ∧
      (∀ before gap after, key.toList = before ++ gap ++ after → (∃ c ∈ before, isLeading c) →
        gap ≠ [] → (∀ c ∈ gap, isSeparator c) →
        ∀ other, other ≠ [] → (∀ c ∈ other, isSeparator c) → Steady other →
          derive style (String.ofList (before ++ other ++ after)) = derive style key) ∧
      ∀ tail, (∀ c ∈ tail, isSeparator c) → Steady tail →
        derive style (String.ofList (key.toList ++ tail)) = derive style key := by
  refine ⟨derive_joined style steady, ?_, ?_⟩
  · intro before gap after spelling leads some_gap separators other some_other separators' steady'
    have apart : ∀ g, g ≠ [] → (∀ c ∈ g, isSeparator c) →
        words (strip (before ++ g ++ after)) = words (strip before) ++ words after := by
      intro g some_g separating
      rw [List.append_assoc, strip_append_leading leads, ← List.append_assoc, words_gap some_g separating]
    have steady_other : Steady (before ++ other ++ after) := by
      rw [spelling] at steady
      refine Steady.append (Steady.append (steady.of_subset ?_) steady') (steady.of_subset ?_)
      · intro c hc
        simp [hc]
      · intro c hc
        simp [hc]
    rw [derive_joined style steady, derive_joined style (by rw [String.toList_ofList]; exact steady_other), spelling,
      String.toList_ofList, apart gap some_gap separators, apart other some_other separators']
  · intro tail separators steady'
    have same : words (strip (key.toList ++ tail)) = words (strip key.toList) := by
      by_cases leads : ∃ c ∈ key.toList, isLeading c
      · by_cases some_tail : tail = []
        · rw [some_tail, List.append_nil]
        · have gap := words_gap some_tail separators (strip key.toList) []
          rw [List.append_nil, words_nil, List.append_nil] at gap
          rw [strip_append_leading leads, gap]
      · have unleading : ∀ c ∈ key.toList, isLeading c = false := by
          intro c hc
          by_contra leading
          exact leads ⟨c, hc, by simpa using leading⟩
        have none_left : strip (key.toList ++ tail) = [] := by
          refine strip_eq_nil_iff.mpr fun c hc => ?_
          rcases List.mem_append.mp hc with hc | hc
          · exact unleading c hc
          · exact not_leading_of_separator (separators c hc)
        rw [none_left, strip_eq_nil_iff.mpr unleading]
    rw [derive_joined style steady, derive_joined style (by rw [String.toList_ofList]; exact steady.append steady'),
      String.toList_ofList, same]

/-- A key with words of which the forms are longer than their first characters, a mark that
    starts a word, and line feeds and other separators between the words and at the end. -/
def ligatures : String := "-\u0301ﬁx\n\n ßtraße \u0301y!\n \n"

theorem ligatures_words :
    Steady ligatures.toList ∧
      words (strip ligatures.toList) = ["ﬁx".toList, "ßtraße".toList, "\u0301y".toList] ∧
      derive .pascal ligatures = "FIxSStraße\u0301y" ∧
      derive .pascal "-\u0301ﬁx€ßtraße \u0301y!\n \n" = "FIxSStraße\u0301y" := by
  have steady : Steady ligatures.toList := by decide +kernel
  have split : words (strip ligatures.toList) = ["ﬁx".toList, "ßtraße".toList, "\u0301y".toList] := by
    decide +kernel
  obtain ⟨named, gaps, _⟩ := derive_eq_words .pascal steady
  have spelled : derive .pascal ligatures = "FIxSStraße\u0301y" := by
    rw [named, split]
    decide +kernel
  have other := gaps "-\u0301ﬁx".toList "\n\n ".toList "ßtraße \u0301y!\n \n".toList (by decide +kernel)
    ⟨'ﬁ', by decide, by decide +kernel⟩ (by decide) (List.all_eq_true.mp (by decide +kernel)) "€".toList (by decide)
    (List.all_eq_true.mp (by decide +kernel)) (by decide +kernel)
  exact ⟨steady, split, spelled, other.trans spelled⟩

end Decodables.Identifier
