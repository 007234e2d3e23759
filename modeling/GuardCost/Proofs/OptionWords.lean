/-
GuardCost/Proofs/OptionWords.lean

The words that spell options.  What is given at a level of the command line is a
row of uses, each an option with the word that is its value.  A use is spelled by
the long name of the option or by its letter, letters can share a word, and a
value stands behind an equals sign, right behind a letter, or in a word of its own:

    --only=a    --only a    -r5    -r=5    -r 5    -sr 5

`Spells` is the grammar of these words, one constructor for each kind of word.
Reading a level goes from left to right, with options that wait for their values,
and comes to the same as giving the uses one after the other (`readLevel_eq`):

    words spell a line  →  (parse words = ok i  ↔  both levels can be given
                                                   and i is what they amount to)

(`SpellsLine.parse_eq_ok_iff`).  Words that are accepted always spell a line
(`exists_spellsLine`).
-/
import GuardCost.Cli.Invocation
import GuardCost.Proofs.Chains
import GuardCost.Proofs.RunnableTargets
import Mathlib.Data.List.Nodup

namespace GuardCost.Cli

/-! ### Uses -/

/-- An option and the word that is its value; a flag has the empty word. -/
abbrev Use := Opt × Bytes

namespace Given

/-- Give options one after the other. -/
def setAll (g : Given) (uses : List Use) : Except UsageError Given :=
  uses.foldlM (fun g use => g.set use.1 use.2) g

theorem setAll_cons (g : Given) (use : Use) (rest : List Use) :
    g.setAll (use :: rest) = g.set use.1 use.2 >>= fun g => g.setAll rest := rfl

theorem setAll_singleton (g : Given) (use : Use) : g.setAll [use] = g.set use.1 use.2 := by
  rw [setAll_cons]
  cases g.set use.1 use.2 <;> rfl

theorem setAll_append (g : Given) (front rest : List Use) :
    g.setAll (front ++ rest) = g.setAll front >>= fun g => g.setAll rest :=
  List.foldlM_append ..

end Given

/-! ### The grammar -/

namespace Opt

/-- An option with a letter at a level. -/
def HasLetter (level : Level) (o : Opt) (b : UInt8) : Prop :=
  o ∈ known level ∧ o.info.short?.map Bytes.ascii = some b

/-- The word that is the long name of an option. -/
def longWord (o : Opt) : Bytes := Word.dash :: Word.dash :: Bytes.ofString o.info.long

/-- The long name of an option, with a value behind it if there is one. -/
def longWith (o : Opt) : Option Bytes → Bytes
  | none => o.longWord
  | some value => o.longWord ++ Word.equals :: value

end Opt

/-- Letters in one word spell uses; the option of the last one may have its value
in the next word. -/
inductive SpellsLetters (level : Level) : List Use → Option Opt → Bytes → Prop
  | done : SpellsLetters level [] none []
  | flag {o : Opt} {b : UInt8} {uses : List Use} {due? : Option Opt} {bs : Bytes} :
      o.HasLetter level b → o.takesValue = false → SpellsLetters level uses due? bs →
        SpellsLetters level ((o, []) :: uses) due? (b :: bs)
  | apart {o : Opt} {b : UInt8} : o.HasLetter level b → o.takesValue = true →
      SpellsLetters level [] (some o) [b]
  | joined {o : Opt} {b c : UInt8} {value : Bytes} : o.HasLetter level b → o.takesValue = true →
      c ≠ Word.equals → SpellsLetters level [(o, c :: value)] none (b :: c :: value)
  | equals {o : Opt} {b : UInt8} {value : Bytes} : o.HasLetter level b → o.takesValue = true →
      SpellsLetters level [(o, value)] none (b :: Word.equals :: value)

/-- Words spell uses, when the value of an option is due or none is. -/
inductive Spells (level : Level) : Option Opt → List Use → List Bytes → Prop
  | done : Spells level none [] []
  | value {o : Opt} {word : Bytes} {uses : List Use} {words : List Bytes} :
      Word.ofBytes word = .plain → Spells level none uses words →
        Spells level (some o) ((o, word) :: uses) (word :: words)
  | flag {o : Opt} {uses : List Use} {words : List Bytes} : o ∈ Opt.known level →
      o.takesValue = false → Spells level none uses words →
        Spells level none ((o, []) :: uses) (o.longWord :: words)
  | apart {o : Opt} {uses : List Use} {words : List Bytes} : o ∈ Opt.known level →
      o.takesValue = true → Spells level (some o) uses words →
        Spells level none uses (o.longWord :: words)
  | equals {o : Opt} {value : Bytes} {uses : List Use} {words : List Bytes} :
      o ∈ Opt.known level → o.takesValue = true → Spells level none uses words →
        Spells level none ((o, value) :: uses) ((o.longWord ++ Word.equals :: value) :: words)
  | letters {bs : Bytes} {front uses : List Use} {due? : Option Opt} {words : List Bytes} :
      bs ≠ [] → SpellsLetters level front due? bs → Spells level due? uses words →
        Spells level none (front ++ uses) ((Word.dash :: bs) :: words)

/-! ### Names and letters -/

namespace Opt

variable {level : Level} {o o' : Opt} {b : UInt8} {name : Bytes}

theorem eq_of_long_eq (level : Level) : ∀ o ∈ known level, ∀ o' ∈ known level,
    o.info.long = o'.info.long → o = o' := by
  have hnodup : ((known level).map fun o => o.info.long).Nodup := by
    rcases level with - | - | - | - <;> decide
  exact fun o ho o' ho' => List.inj_on_of_nodup_map hnodup ho ho'

theorem eq_of_letter_eq : ∀ level, ∀ o ∈ known level, ∀ o' ∈ known level,
    o.info.short?.isSome → o.info.short?.map Bytes.ascii = o'.info.short?.map Bytes.ascii →
      o = o' := by
  rintro (- | - | - | -) <;> decide

theorem ofLong?_eq_some_iff :
    ofLong? level name = some o ↔ o ∈ known level ∧ Bytes.ofString o.info.long = name := by
  refine find?_key_eq_some_iff (fun o => Bytes.ofString o.info.long) fun o ho o' ho' h h' =>
    eq_of_long_eq level o ho o' ho' ?_
  exact Bytes.ofString_injective (h.trans h'.symm)

theorem ofShort?_eq_some_iff : ofShort? level b = some o ↔ o.HasLetter level b := by
  refine find?_key_eq_some_iff (fun o => o.info.short?.map Bytes.ascii) fun o ho o' ho' h h' =>
    eq_of_letter_eq level o ho o' ho' ?_ ?_
  · cases hshort : o.info.short? with
    | none => rw [hshort] at h; cases h
    | some c => rfl
  · exact h.trans h'.symm

/-- The dash is no letter of an option. -/
theorem HasLetter.ne_dash (h : o.HasLetter level b) : b ≠ Word.dash := by
  rintro rfl
  obtain ⟨-, h⟩ := h
  revert h
  cases o <;> decide

/-- A long name is not empty and has no equals sign. -/
theorem long_wellFormed (o : Opt) :
    Bytes.ofString o.info.long ≠ [] ∧ Word.equals ∉ Bytes.ofString o.info.long := by
  cases o <;> decide

end Opt

namespace CommandName

/-- The word that asks for a command. -/
def word (c : CommandName) : Bytes := Bytes.ofString c.text

theorem ofWord?_eq_some_iff {w : Bytes} {c : CommandName} : ofWord? w = some c ↔ c.word = w := by
  have hinj : ∀ a b : CommandName, a.word = b.word → a = b := by
    intro a b h
    cases a <;> cases b <;> first | rfl | exact absurd h (by decide)
  have hmem : c ∈ all := by cases c <;> decide
  exact (find?_key_eq_some_iff word fun a _ b _ ha hb => hinj a b (ha.trans hb.symm)).trans
    (and_iff_right hmem)

/-- The word for a command, and that for help, do not begin with a dash. -/
theorem head?_word (c : CommandName) : c.word.head? ≠ some Word.dash := by
  cases c <;> decide

end CommandName

/-! ### Words -/

namespace Word

theorem ofBytes_dashes : ofBytes [dash, dash] = .dashes := rfl

theorem ofBytes_of_head? {w : Bytes} (h : w.head? ≠ some dash) : ofBytes w = .plain := by
  cases w with
  | nil => rfl
  | cons a rest =>
    have ha : a ≠ dash := fun ha => h (ha ▸ rfl)
    simp [ofBytes, ha]

theorem ofBytes_letters {b : UInt8} (hb : b ≠ dash) (bs : Bytes) :
    ofBytes (dash :: b :: bs) = .short (b :: bs) := by
  simp [ofBytes, hb]

theorem ofBytes_name {name : Bytes} (hne : name ≠ []) (hname : equals ∉ name) :
    ofBytes (dash :: dash :: name) = .long name none := by
  have hsplit : splitFirst? equals name = none := by
    cases h : splitFirst? equals name with
    | none => rfl
    | some parts =>
      rw [(splitFirst?_eq_some.1 h).1] at hname
      simp at hname
  simp [ofBytes, hne, ofLong, hsplit]

theorem ofBytes_equals {name : Bytes} (hname : equals ∉ name) (value : Bytes) :
    ofBytes (dash :: dash :: (name ++ equals :: value)) = .long name (some value) := by
  have hsplit : splitFirst? equals (name ++ equals :: value) = some (name, value) :=
    splitFirst?_eq_some.2 ⟨rfl, hname⟩
  simp [ofBytes, ofLong, hsplit]

/-- The word of each kind. -/
theorem eq_of_ofBytes {w : Bytes} : match ofBytes w with
    | .dashes => w = [dash, dash]
    | .long name none => w = dash :: dash :: name
    | .long name (some value) => w = dash :: dash :: (name ++ equals :: value)
    | .short bs => w = dash :: bs ∧ bs ≠ []
    | .plain => w.head? ≠ some dash ∨ w = [dash] := by
  rcases w with - | ⟨a, rest⟩
  · exact .inl (by simp)
  by_cases ha : a = dash
  · subst ha
    rcases rest with - | ⟨b, body⟩
    · exact .inr rfl
    by_cases hb : b = dash
    · subst hb
      by_cases hbody : body = []
      · subst hbody
        rfl
      · have hofBytes : ofBytes (dash :: dash :: body) = ofLong body := by
          simp [ofBytes, hbody]
        rw [hofBytes, ofLong]
        cases hsplit : splitFirst? equals body with
        | none => rfl
        | some parts =>
          obtain ⟨name, value⟩ := parts
          obtain ⟨rfl, -⟩ := splitFirst?_eq_some.1 hsplit
          rfl
    · rw [ofBytes_letters hb]
      exact ⟨rfl, List.cons_ne_nil _ _⟩
  · rw [ofBytes_of_head? (by simpa using ha)]
    exact .inl (by simpa using ha)

end Word

theorem Opt.ofBytes_longWord (o : Opt) :
    Word.ofBytes o.longWord = .long (Bytes.ofString o.info.long) none :=
  Word.ofBytes_name o.long_wellFormed.1 o.long_wellFormed.2

theorem Opt.ofBytes_longWord_equals (o : Opt) (value : Bytes) :
    Word.ofBytes (o.longWord ++ Word.equals :: value) =
      .long (Bytes.ofString o.info.long) (some value) :=
  Word.ofBytes_equals o.long_wellFormed.2 value

theorem SpellsLetters.ofBytes {level : Level} {uses : List Use} {due? : Option Opt} {bs : Bytes}
    (h : SpellsLetters level uses due? bs) (hne : bs ≠ []) :
    Word.ofBytes (Word.dash :: bs) = .short bs := by
  cases h with
  | done => exact absurd rfl hne
  | flag hletter | apart hletter | joined hletter | equals hletter =>
    exact Word.ofBytes_letters hletter.ne_dash _

/-! ### What has been read -/

namespace Scan

variable {level : Level} {s s' : Scan} {o : Opt} {g h : Given}

/-- The option whose value is due. -/
def due? (s : Scan) : Option Opt :=
  match s.waiting? with
  | some (o, none) => some o
  | _ => none

/-- What has been read, with the value that may not have been looked at. -/
def settled (s : Scan) : Except UsageError Given :=
  match s.waiting? with
  | some (o, some word) => s.given.set o word
  | _ => .ok s.given

theorem isWaiting_eq (s : Scan) : s.isWaiting = s.due?.isSome := by
  obtain ⟨given, - | ⟨o, - | word⟩⟩ := s <;> rfl

theorem settle_eq (hs : s.due? = none) : s.settle = s.settled := by
  obtain ⟨given, - | ⟨o, - | word⟩⟩ := s
  · rfl
  · cases hs
  · rfl

theorem due?_eq_none_of_settle (hs : s.settle = .ok g) : s.due? = none := by
  obtain ⟨given, - | ⟨o, - | word⟩⟩ := s
  · rfl
  · cases hs
  · rfl

/-- The value that is due is looked at later. -/
theorem fill_of_due (hs : s.due? = some o) (word : Bytes) :
    (s.fill word).due? = none ∧ s.settled = .ok s.given ∧
      (s.fill word).settled = s.given.set o word := by
  obtain ⟨given, - | ⟨o', - | word⟩⟩ := s
  · cases hs
  · cases hs
    exact ⟨rfl, rfl, rfl⟩
  · cases hs

/-! ### One option -/

theorem give_eq (hs : s.due? = none) (word : Bytes) :
    s.give o word = s.settled >>= fun g => g.set o word >>= fun h => .ok ⟨h, none⟩ := by
  rw [← settle_eq hs]
  rfl

theorem await_eq (hs : s.due? = none) :
    s.await o = s.settled >>= fun g => .ok ⟨g, some (o, none)⟩ := by
  rw [← settle_eq hs]
  rfl

theorem option_flag (ho : o.takesValue = false) : s.option o none = s.give o [] := by
  simp only [option, ho]

theorem option_apart (ho : o.takesValue = true) : s.option o none = s.await o := by
  simp only [option, ho]

theorem option_joined (ho : o.takesValue = true) (value : Bytes) :
    s.option o (some value) = s.give o value := by
  simp only [option, ho]

theorem option_unwanted (ho : o.takesValue = false) (value : Bytes) :
    s.option o (some value) = .error (.unwantedValue o) := by
  simp only [option, ho]

/-- An option is read only when no value is due. -/
theorem due?_eq_none_of_option {value? : Option Bytes} (hs : s.option o value? = .ok s') :
    s.due? = none := by
  unfold option at hs
  split at hs
  · obtain ⟨g, hg, -⟩ := bind_eq_ok_iff.1 hs
    exact due?_eq_none_of_settle hg
  · obtain ⟨g, hg, -⟩ := bind_eq_ok_iff.1 hs
    exact due?_eq_none_of_settle hg
  · obtain ⟨g, hg, -⟩ := bind_eq_ok_iff.1 hs
    exact due?_eq_none_of_settle hg
  · cases hs

theorem named_eq {value? : Option Bytes} (ho : o ∈ Opt.known level) (word : Bytes) :
    s.named level (Bytes.ofString o.info.long) value? word = s.option o value? := by
  rw [named, Opt.ofLong?_eq_some_iff.2 ⟨ho, rfl⟩]

theorem known_of_named {name word : Bytes} {value? : Option Bytes}
    (hs : s.named level name value? word = .ok s') :
    ∃ o ∈ Opt.known level, Bytes.ofString o.info.long = name ∧ s.option o value? = .ok s' := by
  unfold named at hs
  split at hs
  · cases hs
  · next o ho =>
    obtain ⟨hknown, hname⟩ := Opt.ofLong?_eq_some_iff.1 ho
    exact ⟨o, hknown, hname, hs⟩

/-! ### Letters -/

section
variable {word bs : Bytes} {b : UInt8} {uses : List Use} {due? : Option Opt}

theorem letters_flag (ho : o.HasLetter level b) (hflag : o.takesValue = false) :
    s.letters level word (b :: bs) = s.give o [] >>= fun s₁ => s₁.letters level word bs := by
  rw [letters, Opt.ofShort?_eq_some_iff.2 ho]
  simp only [hflag, Bool.false_eq_true, if_false, option_flag hflag]

theorem letters_valued (ho : o.HasLetter level b) (hvalue : o.takesValue = true) :
    s.letters level word (b :: bs) = s.option o (attached? bs) := by
  rw [letters, Opt.ofShort?_eq_some_iff.2 ho]
  simp only [hvalue, if_true]

theorem due?_eq_none_of_letters (hne : bs ≠ []) (hs : s.letters level word bs = .ok s') :
    s.due? = none := by
  rcases bs with - | ⟨b, rest⟩
  · exact absurd rfl hne
  rw [letters] at hs
  split at hs
  · cases hs
  · split at hs
    · exact due?_eq_none_of_option hs
    · obtain ⟨s₁, hstep, -⟩ := bind_eq_ok_iff.1 hs
      exact due?_eq_none_of_option hstep

/-- Reading letters is giving the uses that they spell, one after the other. -/
theorem letters_eq (hspells : SpellsLetters level uses due? bs) (hs : s.due? = none)
    (hne : bs ≠ [] ∨ s.waiting? = none) :
    s.letters level word bs = s.settled >>= fun g => g.setAll uses >>= fun h =>
      .ok ⟨h, due?.map fun o => (o, none)⟩ := by
  induction hspells generalizing s with
  | done =>
    obtain ⟨given, waiting?⟩ := s
    obtain rfl : waiting? = none := by simpa using hne
    rfl
  | @flag o _ _ _ _ ho hflag _ ih =>
    rw [letters_flag ho hflag, give_eq hs]
    simp only [Given.setAll_cons]
    cases s.settled with
    | error e => rfl
    | ok g =>
      show (g.set o [] >>= _) >>= _ = (g.set o [] >>= _) >>= _
      cases g.set o [] with
      | error e => rfl
      | ok h => exact ih rfl (.inr rfl)
  | apart ho hvalue =>
    rw [letters_valued ho hvalue, attached?, option_apart hvalue, await_eq hs]
    rfl
  | joined ho hvalue hc =>
    rw [letters_valued ho hvalue, attached?, if_neg hc, option_joined hvalue, give_eq hs]
    simp only [Given.setAll_singleton]
    rfl
  | equals ho hvalue =>
    rw [letters_valued ho hvalue, attached?, if_pos rfl, option_joined hvalue, give_eq hs]
    simp only [Given.setAll_singleton]
    rfl

/-- Letters that can be read spell uses. -/
theorem exists_spellsLetters (hs : s.due? = none) (hread : s.letters level word bs = .ok s') :
    ∃ uses, SpellsLetters level uses s'.due? bs := by
  induction bs generalizing s with
  | nil =>
    cases hread
    exact ⟨[], hs ▸ .done⟩
  | cons b rest ih =>
    cases ho : Opt.ofShort? level b with
    | none =>
      rw [letters, ho] at hread
      cases hread
    | some o =>
      have hletter := Opt.ofShort?_eq_some_iff.1 ho
      cases hvalue : o.takesValue with
      | true =>
        -- what follows the letter is a value, if anything does
        rw [letters_valued hletter hvalue] at hread
        rcases rest with - | ⟨c, value⟩
        · rw [attached?, option_apart hvalue, await_eq hs] at hread
          obtain ⟨g, -, hread⟩ := bind_eq_ok_iff.1 hread
          cases hread
          exact ⟨[], .apart hletter hvalue⟩
        · rw [attached?, option_joined hvalue, give_eq hs] at hread
          obtain ⟨g, -, hread⟩ := bind_eq_ok_iff.1 hread
          obtain ⟨h, -, hread⟩ := bind_eq_ok_iff.1 hread
          cases hread
          by_cases hc : c = Word.equals
          · subst hc
            exact ⟨_, .equals hletter hvalue⟩
          · exact ⟨_, .joined hletter hvalue hc⟩
      | false =>
        rw [letters_flag hletter hvalue, give_eq hs] at hread
        obtain ⟨s₁, hstep, hread⟩ := bind_eq_ok_iff.1 hread
        obtain ⟨g, -, hstep⟩ := bind_eq_ok_iff.1 hstep
        obtain ⟨h, -, hstep⟩ := bind_eq_ok_iff.1 hstep
        cases hstep
        obtain ⟨uses, hspells⟩ := ih rfl hread
        exact ⟨_, .flag hletter hvalue hspells⟩

end

/-- A long name that can be read, with a value behind an equals sign or without,
spells uses together with the words after it. -/
theorem exists_spells_option {value? : Option Bytes} {uses : List Use} {words : List Bytes}
    (ho : o ∈ Opt.known level) (hstep : s.option o value? = .ok s')
    (hspells : Spells level s'.due? uses words) :
    ∃ uses, Spells level none uses (o.longWith value? :: words) := by
  have hdue := due?_eq_none_of_option hstep
  rcases value? with - | value <;> cases hvalue : o.takesValue
  · rw [option_flag hvalue, give_eq hdue] at hstep
    obtain ⟨g, -, hstep⟩ := bind_eq_ok_iff.1 hstep
    obtain ⟨h, -, hstep⟩ := bind_eq_ok_iff.1 hstep
    cases hstep
    exact ⟨_, .flag ho hvalue hspells⟩
  · rw [option_apart hvalue, await_eq hdue] at hstep
    obtain ⟨g, -, hstep⟩ := bind_eq_ok_iff.1 hstep
    cases hstep
    exact ⟨_, .apart ho hvalue hspells⟩
  · rw [option_unwanted hvalue] at hstep
    cases hstep
  · rw [option_joined hvalue, give_eq hdue] at hstep
    obtain ⟨g, -, hstep⟩ := bind_eq_ok_iff.1 hstep
    obtain ⟨h, -, hstep⟩ := bind_eq_ok_iff.1 hstep
    cases hstep
    exact ⟨_, .equals ho hvalue hspells⟩

end Scan

/-! ### Reading a level -/

/-- What may stand behind the options of a level: nothing, two dashes, or at the
top a command with its words. -/
inductive Ends : Level → List Bytes → Option (CommandName × List Bytes) → Prop
  | nothing {level : Level} : Ends level [] none
  | dashes {level : Level} : Ends level [[Word.dash, Word.dash]] none
  | command {c : CommandName} {words : List Bytes} : Ends .top (c.word :: words) (some (c, words))

/-- A command ends the options of the top only. -/
theorem Ends.command?_eq_none {c : CommandName} {rest : List Bytes}
    {command? : Option (CommandName × List Bytes)} (h : Ends (.after c) rest command?) :
    command? = none := by
  cases h <;> rfl

section
variable {level : Level} {s : Scan} {word : Bytes} {rest words : List Bytes} {r : Reading}

/-- A word that is due, or begins with a dash, is read as an option or a value. -/
theorem readLevel_cons (hword : s.due? ≠ none ∨ word.head? = some Word.dash) :
    readLevel level s (word :: rest) =
      match Word.ofBytes word with
      | .dashes =>
        match rest with
        | [] => do return { given := ← s.settle }
        | next :: _ => .error (strayWord level true next)
      | .long name value? => do readLevel level (← s.named level name value? word) rest
      | .short bs => do readLevel level (← s.letters level word bs) rest
      | .plain =>
        if s.isWaiting then readLevel level (s.fill word) rest
        else .error (strayWord level false word) := by
  have hcommand : (if level = .top ∧ !s.isWaiting then CommandName.ofWord? word else none) = none
      ∧ ¬ (level = .top ∧ !s.isWaiting ∧ word = helpWord) := by
    rcases hword with hdue | hdash
    · have hwaiting : s.isWaiting = true := by
        rw [Scan.isWaiting_eq, Option.isSome_iff_ne_none]
        exact hdue
      simp [hwaiting]
    · refine ⟨?_, fun h => ?_⟩
      · split
        · cases hc : CommandName.ofWord? word with
          | none => rfl
          | some c => exact absurd (CommandName.ofWord?_eq_some_iff.1 hc ▸ hdash) c.head?_word
        · rfl
      · rw [h.2.2] at hdash
        exact absurd hdash (by decide)
  have hlevel := readLevel.eq_def level s (word :: rest)
  simp only [hcommand.1, if_neg hcommand.2] at hlevel
  exact hlevel

/-- A use that is given, and then the rest. -/
theorem readLevel_give {o : Opt} {uses : List Use} {command? : Option (CommandName × List Bytes)}
    (hs : s.due? = none) (hrest : ∀ h, readLevel level ⟨h, none⟩ rest =
      h.setAll uses >>= fun h => .ok ⟨h, command?⟩) :
    (s.give o word >>= fun s₁ => readLevel level s₁ rest) =
      s.settled >>= fun g => g.setAll ((o, word) :: uses) >>= fun h => .ok ⟨h, command?⟩ := by
  rw [Scan.give_eq hs]
  simp only [Given.setAll_cons]
  cases s.settled with
  | error e => rfl
  | ok g =>
    show (g.set o word >>= _) >>= _ = (g.set o word >>= _) >>= _
    cases g.set o word with
    | error e => rfl
    | ok h => exact hrest h

/-- Words that spell uses are read, and the uses given one after the other, up to the
end of the level. -/
theorem readLevel_eq {due? : Option Opt} {uses : List Use} {front : List Bytes}
    {command? : Option (CommandName × List Bytes)} (hspells : Spells level due? uses front)
    (hends : Ends level rest command?) (hs : s.due? = due?) :
    readLevel level s (front ++ rest) =
      s.settled >>= fun g => g.setAll uses >>= fun h => .ok ⟨h, command?⟩ := by
  induction hspells generalizing s with
  | done =>
    have hsettle : (do return { given := ← s.settle, command? : Reading }) =
        s.settled >>= fun g => g.setAll [] >>= fun h => .ok ⟨h, command?⟩ := by
      rw [Scan.settle_eq hs]
      rfl
    rw [List.nil_append, ← hsettle]
    cases hends with
    | nothing => rw [readLevel.eq_def]
    | dashes => rw [readLevel_cons (.inr rfl), Word.ofBytes_dashes]
    | @command c words =>
      have hwaiting : s.isWaiting = false := by rw [Scan.isWaiting_eq, hs]; rfl
      rw [readLevel.eq_def]
      simp only [hwaiting, CommandName.ofWord?_eq_some_iff.2 (rfl : c.word = c.word)]
      rfl
  | @value o word uses words hplain _ ih =>
    have hwaiting : s.isWaiting = true := by rw [Scan.isWaiting_eq, hs]; rfl
    obtain ⟨hdue, hsettled, hfill⟩ := Scan.fill_of_due hs word
    rw [List.cons_append, readLevel_cons (.inl (by simp [hs])), hplain]
    simp only [hwaiting, if_true]
    rw [ih hdue, hfill, hsettled]
    exact (bind_assoc ..).symm
  | @flag o uses words ho hflag _ ih =>
    rw [List.cons_append, readLevel_cons (.inr rfl), o.ofBytes_longWord]
    simp only [Scan.named_eq ho, Scan.option_flag hflag]
    exact readLevel_give hs fun h => ih rfl
  | @apart o uses words ho hvalue _ ih =>
    rw [List.cons_append, readLevel_cons (.inr rfl), o.ofBytes_longWord]
    simp only [Scan.named_eq ho, Scan.option_apart hvalue, Scan.await_eq hs]
    cases s.settled with
    | error e => rfl
    | ok g => exact ih rfl
  | @equals o value uses words ho hvalue _ ih =>
    rw [List.cons_append, readLevel_cons (.inr rfl), o.ofBytes_longWord_equals]
    simp only [Scan.named_eq ho, Scan.option_joined hvalue]
    exact readLevel_give hs fun h => ih rfl
  | @letters bs front uses due? words hne hletters _ ih =>
    rw [List.cons_append, readLevel_cons (.inr rfl), hletters.ofBytes hne]
    simp only [Scan.letters_eq hletters hs (.inl hne), Given.setAll_append]
    cases s.settled with
    | error e => rfl
    | ok g =>
      show (g.setAll front >>= _) >>= _ = (g.setAll front >>= _) >>= _
      cases g.setAll front with
      | error e => rfl
      | ok h =>
        cases due? with
        | none => exact ih rfl
        | some o => exact ih rfl

/-- Words that can be read spell uses, up to the end of the level. -/
theorem exists_spells (hread : readLevel level s words = .ok r) :
    ∃ uses front rest, words = front ++ rest ∧ Spells level s.due? uses front ∧
      Ends level rest r.command? := by
  induction words generalizing s with
  | nil =>
    rw [readLevel.eq_def] at hread
    obtain ⟨g, hsettle, hread⟩ := bind_eq_ok_iff.1 hread
    cases hread
    exact ⟨[], [], [], rfl, Scan.due?_eq_none_of_settle hsettle ▸ .done, .nothing⟩
  | cons word rest ih =>
    by_cases hword : s.due? ≠ none ∨ word.head? = some Word.dash
    · rw [readLevel_cons hword] at hread
      have hkind := Word.eq_of_ofBytes (w := word)
      cases hof : Word.ofBytes word with
      | dashes =>
        rw [hof] at hread hkind
        rcases rest with - | ⟨next, rest⟩
        · obtain ⟨g, hsettle, hread⟩ := bind_eq_ok_iff.1 hread
          cases hread
          exact ⟨[], [], _, rfl, Scan.due?_eq_none_of_settle hsettle ▸ .done, hkind ▸ .dashes⟩
        · cases hread
      | long name value? =>
        rw [hof] at hread hkind
        obtain ⟨s₁, hnamed, hrest⟩ := bind_eq_ok_iff.1 hread
        obtain ⟨o, ho, rfl, hstep⟩ := Scan.known_of_named hnamed
        obtain ⟨uses, front, rest, rfl, hspells, hends⟩ := ih hrest
        obtain ⟨uses', hspells'⟩ := Scan.exists_spells_option ho hstep hspells
        rw [Scan.due?_eq_none_of_option hstep]
        have hlong : word = o.longWith value? := by
          cases value? <;> exact hkind
        exact ⟨uses', word :: front, rest, rfl, hlong ▸ hspells', hends⟩
      | short bs =>
        rw [hof] at hread hkind
        obtain ⟨rfl, hne⟩ := hkind
        obtain ⟨s₁, hstep, hrest⟩ := bind_eq_ok_iff.1 hread
        obtain ⟨uses, front, rest, rfl, hspells, hends⟩ := ih hrest
        have hdue := Scan.due?_eq_none_of_letters hne hstep
        obtain ⟨uses₁, hletters⟩ := Scan.exists_spellsLetters hdue hstep
        exact ⟨uses₁ ++ uses, _ :: front, rest, rfl, hdue ▸ .letters hne hletters hspells, hends⟩
      | plain =>
        rw [hof] at hread
        -- only as a value can it have been read
        cases hdue : s.due? with
        | none =>
          have hwaiting : s.isWaiting = false := by rw [Scan.isWaiting_eq, hdue]; rfl
          simp only [hwaiting, Bool.false_eq_true, if_false] at hread
          cases hread
        | some o =>
          have hwaiting : s.isWaiting = true := by rw [Scan.isWaiting_eq, hdue]; rfl
          simp only [hwaiting, if_true] at hread
          obtain ⟨uses, front, rest, rfl, hspells, hends⟩ := ih hread
          rw [(Scan.fill_of_due hdue word).1] at hspells
          exact ⟨(o, word) :: uses, word :: front, rest, rfl, .value hof hspells, hends⟩
    · -- a plain word that is not due can only be a command
      obtain ⟨hdue, hdash⟩ := not_or.1 hword
      have hdue : s.due? = none := not_not.1 hdue
      have hwaiting : s.isWaiting = false := by rw [Scan.isWaiting_eq, hdue]; rfl
      rw [readLevel.eq_def] at hread
      simp only [hwaiting, Bool.not_false, and_true, true_and, Word.ofBytes_of_head? hdash,
        Bool.false_eq_true, if_false] at hread
      split at hread
      · next c hc =>
        split at hc
        · next hlevel =>
          subst hlevel
          obtain rfl := CommandName.ofWord?_eq_some_iff.1 hc
          obtain ⟨g, hsettle, hread⟩ := bind_eq_ok_iff.1 hread
          cases hread
          exact ⟨[], [], _, rfl, hdue ▸ .done, .command⟩
        · cases hc
      · split at hread <;> cases hread

end

/-! ### Command lines -/

/-- Words spell a command line: uses at the top, a command, and uses after it. -/
inductive SpellsLine (top : List Use) (c : CommandName) (inner : List Use) : List Bytes → Prop
  | intro {front back rest : List Bytes} : Spells .top none top front →
      Spells (.after c) none inner back → Ends (.after c) rest none →
        SpellsLine top c inner (front ++ c.word :: (back ++ rest))

/-- The options of a level from its uses. -/
def Given.ofUses (uses : List Use) : Except UsageError Given := do
  let g ← ({} : Given).setAll uses
  g.refuseConflicts
  return g

section
variable {top inner : List Use} {c : CommandName} {words : List Bytes} {i : Invocation}

theorem Given.ofUses_eq_ok_iff {uses : List Use} {g : Given} :
    ofUses uses = .ok g ↔ ({} : Given).setAll uses = .ok g ∧ g.refuseConflicts = .ok () := by
  unfold ofUses
  simp only [bind_eq_ok_iff]
  constructor
  · rintro ⟨g', hset, _, hfree, heq⟩
    cases heq
    exact ⟨hset, hfree⟩
  · rintro ⟨hset, hfree⟩
    exact ⟨g, hset, (), hfree, rfl⟩

/-- A command line is read by giving the uses of its two levels. -/
theorem SpellsLine.parse_eq (h : SpellsLine top c inner words) :
    Invocation.parse words = do
      let g ← ({} : Given).setAll top
      let k ← Given.ofUses inner
      g.refuseConflicts
      return .ofLevels g c k := by
  obtain ⟨htop, hinner, hends⟩ := h
  have hcommand : ∀ words, readCommand c words =
      readLevel (.after c) {} words >>= fun r => r.given.refuseConflicts >>= fun _ => .ok r.given :=
    fun words => rfl
  unfold Invocation.parse
  rw [readLevel_eq htop .command rfl]
  show (({} : Given).setAll top >>= _) >>= _ = _
  cases ({} : Given).setAll top with
  | error e => rfl
  | ok g =>
    show (readCommand c _ >>= _) = (Given.ofUses inner >>= _)
    rw [hcommand, readLevel_eq hinner hends rfl]
    show ((({} : Given).setAll inner >>= _) >>= _) >>= _ =
      (({} : Given).setAll inner >>= _) >>= _
    cases ({} : Given).setAll inner <;> rfl

theorem SpellsLine.parse_eq_ok_iff (h : SpellsLine top c inner words) :
    Invocation.parse words = .ok i ↔
      ∃ g k, Given.ofUses top = .ok g ∧ Given.ofUses inner = .ok k ∧ i = .ofLevels g c k := by
  have htop : ∀ g, Given.ofUses top = .ok g ↔
      ({} : Given).setAll top = .ok g ∧ g.refuseConflicts = .ok () := fun g =>
    Given.ofUses_eq_ok_iff
  rw [h.parse_eq]
  simp only [bind_eq_ok_iff, htop]
  constructor
  · rintro ⟨g, hset, k, hinner, _, hfree, heq⟩
    exact ⟨g, k, ⟨hset, hfree⟩, hinner, (Except.ok.inj heq).symm⟩
  · rintro ⟨g, k, ⟨hset, hfree⟩, hinner, rfl⟩
    exact ⟨g, hset, k, hinner, (), hfree, rfl⟩

/-- **Words that are accepted spell a command line.** -/
theorem exists_spellsLine (hparse : Invocation.parse words = .ok i) :
    ∃ top c inner, SpellsLine top c inner words := by
  unfold Invocation.parse at hparse
  obtain ⟨r, htop, hcommand⟩ := bind_eq_ok_iff.1 hparse
  obtain ⟨uses, front, rest, rfl, hspells, hends⟩ := exists_spells htop
  rcases r with ⟨given, - | ⟨c, words⟩⟩
  · cases hcommand
  · obtain ⟨k, hinner, -⟩ := bind_eq_ok_iff.1 hcommand
    obtain ⟨r', hread, hconflicts⟩ := bind_eq_ok_iff.1 hinner
    obtain ⟨uses', front', rest', rfl, hspells', hends'⟩ := exists_spells hread
    cases hends with
    | command => exact ⟨uses, c, uses', hspells, hspells', hends'.command?_eq_none ▸ hends'⟩

end

end GuardCost.Cli
