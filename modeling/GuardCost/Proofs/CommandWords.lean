/-
GuardCost/Proofs/CommandWords.lean

The words of a command as it is shown.  Words are shown with a space between
them, and a word stands between quotation marks if it is empty or has a blank in
it.  So a line can be read from the front (`firstWord`)

    'two words' rest       up to the next mark
    word rest              up to the next space

provided that no word has a mark of its own: a word that begins with one is then
always a quoted one, and a space in a word is always between marks.  What is read
is what was passed, each word and their number (`lineWords_join`), and commands
that are shown alike pass the same words.
-/
import GuardCost.Proofs.TextPaths

namespace GuardCost

/-- The bytes of a text without a quotation mark. -/
def Bytes.IsUnquoted (b : Bytes) : Prop := ∃ s, b = ofString s ∧ '\'' ∉ s.toList

theorem Bytes.lossy_ofString (s : String) : lossy (ofString s) = s := by
  rw [lossy, decode?_ofString]

namespace Command

/-! ### Reading a line -/

/-- The first word of a line, and what comes after it. -/
def firstWord : List Char → List Char × List Char
  | '\'' :: rest => (rest.takeWhile (· ≠ '\''), (rest.dropWhile (· ≠ '\'')).tail)
  | line => (line.takeWhile (· ≠ ' '), line.dropWhile (· ≠ ' '))

theorem length_rest_lt {line : List Char} (h : (firstWord line).2 ≠ []) :
    (firstWord line).2.tail.length < line.length := by
  have hle : (firstWord line).2.length ≤ line.length := by
    unfold firstWord
    split
    · next rest =>
      have hrest := (List.dropWhile_sublist (l := rest) (· ≠ '\'')).length_le
      rw [List.length_tail, List.length_cons]
      omega
    · exact (List.dropWhile_sublist _).length_le
  have hpos := List.length_pos_iff.2 h
  rw [List.length_tail]
  omega

/-- The words of a line; the character after a word only separates it from the
next one. -/
def lineWords (line : List Char) : List (List Char) :=
  if _ : (firstWord line).2 = [] then [(firstWord line).1]
  else (firstWord line).1 :: lineWords (firstWord line).2.tail
termination_by line.length
decreasing_by exact length_rest_lt ‹_›

theorem lineWords_of_last {line word : List Char} (h : firstWord line = (word, [])) :
    lineWords line = [word] := by
  rw [lineWords, h, dif_pos rfl]

theorem lineWords_of_more {line word rest : List Char} {c : Char}
    (h : firstWord line = (word, c :: rest)) : lineWords line = word :: lineWords rest := by
  rw [lineWords, h, dif_neg (List.cons_ne_nil c rest), List.tail_cons]

/-- The words of a line, as they were passed. -/
def wordsOf (line : String) : List Bytes :=
  (lineWords line.toList).map fun word => Bytes.ofString (String.ofList word)

/-! ### Words that are shown -/

/-- A word that is shown is read up to where it ends. -/
theorem firstWord_showWord {word : Bytes} (hword : word.IsUnquoted) {rest : List Char}
    (hrest : ∀ c ∈ rest.head?, c = ' ') :
    firstWord ((showWord word).toList ++ rest) = (word.lossy.toList, rest) := by
  obtain ⟨s, rfl, hs⟩ := hword
  have hmark : ∀ c ∈ s.toList, decide (c ≠ '\'') = true := fun c hc =>
    decide_eq_true fun heq => hs (heq ▸ hc)
  rw [showWord, Bytes.lossy_ofString]
  split
  · -- between marks, of which the second is the first one behind the word
    have hquoted : ("'" ++ s ++ "'").toList ++ rest = '\'' :: (s.toList ++ '\'' :: rest) := by
      simp
    rw [hquoted, firstWord, List.takeWhile_append_of_pos hmark, List.dropWhile_append_of_pos hmark]
    simp
  · next hplain =>
    rw [Bool.not_eq_true, Bool.or_eq_false_iff] at hplain
    obtain ⟨hne, hblank⟩ := hplain
    have hspace : ∀ c ∈ s.toList, decide (c ≠ ' ') = true := by
      rintro c hc
      refine decide_eq_true ?_
      rintro rfl
      exact absurd (List.any_eq_false.1 hblank _ hc) (by decide)
    have hstop : rest.takeWhile (· ≠ ' ') = [] ∧ rest.dropWhile (· ≠ ' ') = rest := by
      cases rest with
      | nil => exact ⟨rfl, rfl⟩
      | cons c more =>
        obtain rfl := hrest c rfl
        exact ⟨rfl, rfl⟩
    -- the word has a first character, and that is no mark
    obtain ⟨c, cs, hcs⟩ : ∃ c cs, s.toList = c :: cs := by
      refine List.exists_cons_of_ne_nil fun hnil => ?_
      rw [String.toList_eq_nil_iff.1 hnil] at hne
      exact absurd hne (by decide)
    have hfirst : c ≠ '\'' := fun heq => hs (by rw [hcs, heq]; exact List.mem_cons_self)
    have hread : firstWord (s.toList ++ rest) =
        ((s.toList ++ rest).takeWhile (· ≠ ' '), (s.toList ++ rest).dropWhile (· ≠ ' ')) := by
      rw [hcs, List.cons_append, firstWord]
      simpa using hfirst
    rw [hread, List.takeWhile_append_of_pos hspace, List.dropWhile_append_of_pos hspace, hstop.1,
      hstop.2, List.append_nil]

/-- The words of a line that was shown are read from it. -/
theorem lineWords_join {words : List Bytes} (hne : words ≠ [])
    (h : ∀ word ∈ words, word.IsUnquoted) :
    lineWords (Text.join " " (words.map showWord)).toList =
      words.map fun word => word.lossy.toList := by
  induction words with
  | nil => exact absurd rfl hne
  | cons word rest ih =>
    obtain ⟨hword, hrest⟩ := List.forall_mem_cons.1 h
    cases rest with
    | nil =>
      have hread : firstWord ((showWord word).toList ++ []) = (word.lossy.toList, []) :=
        firstWord_showWord hword (by simp)
      rw [List.append_nil] at hread
      exact lineWords_of_last hread
    | cons next more =>
      have hjoin : (Text.join " " ((word :: next :: more).map showWord)).toList =
          (showWord word).toList ++ ' ' ::
            (Text.join " " ((next :: more).map showWord)).toList := by
        simp [Text.join]
      rw [hjoin, lineWords_of_more (firstWord_showWord hword (by simp)), ih (by simp) hrest]
      rfl

/-- The words of a command are read from its text. -/
theorem wordsOf_text {c : Command} (h : ∀ word ∈ c.words, word.IsUnquoted) :
    wordsOf c.text = c.words := by
  have hne : c.words ≠ [] := List.cons_ne_nil _ _
  rw [wordsOf, text, lineWords_join hne h, List.map_map]
  refine (List.map_congr_left fun word hword => ?_).trans (List.map_id c.words)
  obtain ⟨s, rfl, -⟩ := h word hword
  simp [Bytes.lossy_ofString]

/-- **What is shown of a command tells its words.**  Take two commands whose
programs and arguments are texts without quotation marks.  They are shown alike
if and only if they start the same program with the same arguments, whatever
blanks there are in a word and if it is empty; and the words of each are read
from what is shown. -/
theorem text_tells_words {c c' : Command} (h : ∀ word ∈ c.words, word.IsUnquoted)
    (h' : ∀ word ∈ c'.words, word.IsUnquoted) :
    (c.text = c'.text ↔ c.program = c'.program ∧ c.arguments = c'.arguments) ∧
      wordsOf c.text = c.words := by
  refine ⟨⟨fun htext => ?_, fun hwords => ?_⟩, wordsOf_text h⟩
  · have hwords : c.words = c'.words := by
      rw [← wordsOf_text h, ← wordsOf_text h', htext]
    exact List.cons.inj hwords
  · rw [text, text, words, words, hwords.1, hwords.2]

/-- A command with an empty word and with blanks of several kinds in the others. -/
def blankCommand : Command where
  program := Bytes.ofString "my clang"
  arguments := ["", " ", "-o", "a\u2003b", "\n", "-DX=\"\t\""].map Bytes.ofString

theorem blank_command_read_back :
    (∀ word ∈ blankCommand.words, word.IsUnquoted) ∧
      let elsewhere : Command := { blankCommand with directory? := some (.ofString "/tmp") }
      (∀ word ∈ elsewhere.words, word.IsUnquoted) ∧
        (blankCommand.text = elsewhere.text ↔ blankCommand.program = elsewhere.program ∧
          blankCommand.arguments = elsewhere.arguments) ∧
        wordsOf blankCommand.text = blankCommand.words := by
  have h : ∀ word ∈ blankCommand.words, word.IsUnquoted := by
    have hmarks : ∀ s ∈ ["my clang", "", " ", "-o", "a\u2003b", "\n", "-DX=\"\t\""],
        '\'' ∉ s.toList := by decide
    intro word hword
    obtain ⟨s, hs, rfl⟩ : ∃ s ∈ ["my clang", "", " ", "-o", "a\u2003b", "\n", "-DX=\"\t\""],
        Bytes.ofString s = word := List.mem_map.1 hword
    exact ⟨s, rfl, hmarks s hs⟩
  exact ⟨h, h, text_tells_words h h⟩

/-- With quotation marks in the words, other words can be shown in the same way. -/
example :
    ({ program := Bytes.ofString "echo", arguments := ["a b"].map Bytes.ofString } : Command).text =
      ({ program := Bytes.ofString "echo", arguments := ["'a", "b'"].map Bytes.ofString } :
        Command).text := by decide +kernel

end Command

end GuardCost
