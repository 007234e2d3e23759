/-
GuardCost/Proofs/Names.lean

File names and the paths that are made of them.  The name of a checked program
is a single name of a file, and so is that name with the suffix of a stage
(`Program.isSegment_outputFile`); different programs and different stages have
different ones.  Joining a path with a relative one puts their names one after
the other (`Path.names_join`), so that the output of a stage is walked to like

    names of the program's directory, bin, name of the output
-/
import GuardCost.Proofs.Alike
import GuardCost.Proofs.BuildDeeds

namespace GuardCost

/-! ### Bytes of texts -/

namespace Bytes

theorem ofString_append (s t : String) : ofString (s ++ t) = ofString s ++ ofString t := by
  simp [ofString]

theorem ofString_injective : Function.Injective ofString := by
  intro s t h
  refine String.toByteArray_inj.1 ?_
  exact ByteArray.ext (Array.toList_inj.1 h)

theorem ofString_eq (s : String) : ofString s = s.toList.flatMap String.utf8EncodeChar := by
  rw [ofString, String.toUTF8_eq_toByteArray, ← String.utf8Encode_toList]
  simp [List.utf8Encode]

/-- No character is written with less than a byte. -/
theorem length_le_ofString (s : String) : s.length ≤ (ofString s).length := by
  rw [ofString_eq, ← String.length_toList]
  induction s.toList with
  | nil => exact Nat.le_refl 0
  | cons c cs ih =>
    have hc := c.utf8Size_pos
    rw [List.flatMap_cons, List.length_append, List.length_cons, String.length_utf8EncodeChar]
    omega

/-- Bytes are those of the text that they are decoded to. -/
theorem ofString_of_decode? {b : Bytes} {s : String} (h : decode? b = some s) : b = ofString s := by
  rw [decode?, String.fromUTF8?] at h
  split at h
  · rw [← Option.some.inj h]
    rfl
  · cases h

theorem decode?_ofString (s : String) : decode? (ofString s) = some s := by
  have hutf8 : (⟨(ofString s).toArray⟩ : ByteArray) = s.toUTF8 := rfl
  rw [decode?, hutf8, String.fromUTF8?, String.toUTF8_eq_toByteArray, dif_pos s.isValidUTF8]
  rfl

theorem decode?_eq_some {b : Bytes} {s : String} : decode? b = some s ↔ b = ofString s :=
  ⟨ofString_of_decode?, fun h => h ▸ decode?_ofString s⟩

/-- Only a slash has a slash among its bytes: the bytes of any character past
ASCII are large. -/
theorem mem_of_slash_mem_ofString {s : String} (h : slash ∈ ofString s) : '/' ∈ s.toList := by
  rw [ofString_eq] at h
  obtain ⟨c, hc, hmem⟩ := List.mem_flatMap.1 h
  have hbyte : ∀ n : Nat, slash = UInt8.ofNat n → n % 256 = 47 := by
    intro n hn
    have := congrArg UInt8.toNat hn
    rw [UInt8.toNat_ofNat'] at this
    exact this.symm
  unfold String.utf8EncodeChar at hmem
  dsimp only at hmem
  split at hmem
  · next hsmall =>
    have hn := hbyte _ (List.mem_singleton.1 hmem)
    have hval : c.val.toNat = '/'.val.toNat := by
      show c.val.toNat = 47
      omega
    rwa [Char.ext (UInt32.toNat_inj.1 hval)] at hc
  · exfalso
    split at hmem
    · simp only [List.mem_cons, List.not_mem_nil, or_false] at hmem
      rcases hmem with h | h <;> have := hbyte _ h <;> omega
    · split at hmem
      · simp only [List.mem_cons, List.not_mem_nil, or_false] at hmem
        rcases hmem with h | h | h <;> have := hbyte _ h <;> omega
      · simp only [List.mem_cons, List.not_mem_nil, or_false] at hmem
        rcases hmem with h | h | h | h <;> have := hbyte _ h <;> omega

end Bytes

/-! ### Parts of paths -/

theorem partsAt_append {α : Type} [DecidableEq α] (sep : α) (xs ys : List α) :
    partsAt sep (xs ++ sep :: ys) = partsAt sep xs ++ partsAt sep ys := by
  induction xs with
  | nil => simp [partsAt]
  | cons x rest ih =>
    obtain ⟨part, parts, hp⟩ := List.exists_cons_of_ne_nil (partsAt_ne_nil sep rest)
    simp only [List.cons_append, partsAt, ih, hp]
    split <;> rfl

theorem partsAt_of_notMem {α : Type} [DecidableEq α] {sep : α} {xs : List α} (h : sep ∉ xs) :
    partsAt sep xs = [xs] := by
  induction xs with
  | nil => rfl
  | cons x rest ih =>
    have hx : x ≠ sep := fun hx => h (hx ▸ List.mem_cons_self)
    rw [partsAt, if_neg hx, ih fun hr => h (List.mem_cons_of_mem _ hr)]

/-- A name of a file, as it can be one part of a path. -/
structure IsSegment (part : Bytes) : Prop extends IsName part where
  no_slash : Bytes.slash ∉ part

namespace Path

/-- The bytes of a path before those of a relative one that is joined. -/
theorem bytes_join (p : Path) {q : Path} (hq : q.isAbsolute = false) :
    (p.join q).bytes =
      if p.bytes = [] ∨ p.endsWithSlash then p.bytes ++ q.bytes
      else p.bytes ++ Bytes.slash :: q.bytes := by
  rw [join, hq]
  simp only [Bool.false_eq_true, if_false]
  split <;> rfl

theorem length_le_child (p : Path) (s : String) : s.length ≤ (p.child s).bytes.length := by
  refine (Bytes.length_le_ofString s).trans ?_
  unfold child join
  split_ifs <;> simp only [ofString, List.length_append, List.length_cons] <;> omega

/-- The names of a path that is joined come after those in front of it. -/
theorem names_join (p : Path) {q : Path} (hq : q.isAbsolute = false) :
    (p.join q).names = p.names ++ q.names := by
  have hslash : ∀ xs : Bytes, Path.names ⟨xs ++ Bytes.slash :: q.bytes⟩ =
      Path.names ⟨xs⟩ ++ q.names := by
    intro xs
    simp [names, parts, partsAt_append]
  have hjoin : p.join q = ⟨(p.join q).bytes⟩ := rfl
  rw [hjoin, bytes_join p hq]
  split
  · next h =>
    rcases h with h | h
    · rw [h, List.nil_append]
      simp [names, parts, h, partsAt]
    · -- a slash at the end adds a part without a name
      obtain ⟨xs, hxs⟩ : ∃ xs, p.bytes = xs ++ [Bytes.slash] := by
        refine List.getLast?_eq_some_iff.1 ?_
        simpa [endsWithSlash] using h
      have hp : p.names = Path.names ⟨xs⟩ := by
        simp [names, parts, hxs, partsAt_append, partsAt]
      rw [hxs, List.append_assoc, List.singleton_append, hslash, hp]
  · exact hslash p.bytes

theorem isAbsolute_join (p : Path) {q : Path} (hq : q.isAbsolute = false) :
    (p.join q).isAbsolute = p.isAbsolute := by
  have hne : ∀ xs : Bytes, p.bytes ≠ [] → (p.bytes ++ xs).head? = p.bytes.head? := by
    intro xs h
    rw [List.head?_append, Option.or_of_isSome (by simpa using h)]
  rw [isAbsolute, bytes_join p hq]
  by_cases h : p.bytes = []
  · rw [if_pos (.inl h), h, List.nil_append]
    simpa [isAbsolute, h] using hq
  · split <;> rw [hne _ h] <;> rfl

theorem getLast?_join (p : Path) {q : Path} (hq : q.isAbsolute = false) (hne : q.bytes ≠ []) :
    (p.join q).bytes.getLast? = q.bytes.getLast? := by
  rw [bytes_join p hq]
  split
  · rw [List.getLast?_append, Option.or_of_isSome (by simpa using hne)]
  · rw [List.getLast?_append, List.getLast?_cons, Option.or_of_isSome (by simp)]
    cases h : q.bytes.getLast? with
    | none => exact absurd (List.getLast?_eq_none_iff.1 h) hne
    | some b => rfl

theorem names_of_isSegment {part : Bytes} (h : IsSegment part) : Path.names ⟨part⟩ = [part] := by
  have := h.ne_nil
  simp [names, parts, partsAt_of_notMem h.no_slash, this]

theorem isAbsolute_of_isSegment {part : Bytes} (h : IsSegment part) (rest : Bytes) :
    Path.isAbsolute ⟨part ++ rest⟩ = false := by
  obtain ⟨b, bs, rfl⟩ := List.exists_cons_of_ne_nil h.ne_nil
  have hb : b ≠ Bytes.slash := fun hb => h.no_slash (hb ▸ List.mem_cons_self)
  simpa [isAbsolute] using hb

end Path

/-! ### Names of programs and their outputs -/

theorem isSegment_outputDir : IsSegment (Bytes.ofString Stage.outputDir) := by
  have hbytes : Bytes.ofString Stage.outputDir = [98, 105, 110] := rfl
  rw [hbytes]
  exact ⟨⟨by decide, by decide, by decide⟩, by decide⟩

/-- What the file of a stage has after the name of the program. -/
def Stage.suffix : Stage → String
  | sources => ""
  | native => ""
  | wasm => ".wasm"
  | bytecode .checked => ".bc"
  | bytecode .unchecked => "_us.bc"
  | variant v => "_" ++ v.id

/-- The file of a stage stands in the output directory. -/
theorem Stage.outputName_eq (name : String) {stage : Stage} (h : stage ≠ .sources) :
    stage.outputName name = outputDir ++ ("/" ++ (name ++ stage.suffix)) := by
  have hempty : name ++ "" = name := String.append_empty
  rcases stage with - | - | - | (- | -) | v
  · exact absurd rfl h
  all_goals simp only [outputName, suffix, String.append_assoc, hempty]

/-- Different stages have different suffixes. -/
theorem Stage.suffix_injective {stage stage' : Stage} (h : stage ≠ .sources)
    (h' : stage' ≠ .sources) (heq : stage.suffix = stage'.suffix) : stage = stage' := by
  revert heq
  rcases stage with - | - | - | (- | -) | (- | - | - | - | - | - | -) <;>
    rcases stage' with - | - | - | (- | -) | (- | - | - | - | - | - | -) <;>
    first
    | exact absurd rfl h
    | exact absurd rfl h'
    | exact fun _ => rfl
    | decide

namespace Program

/-- The name of the file of a stage. -/
def outputFile (p : Program) (stage : Stage) : Bytes := Bytes.ofString (p.name ++ stage.suffix)

theorem outputFile_eq (p : Program) (stage : Stage) :
    p.outputFile stage = Bytes.ofString p.name ++ Bytes.ofString stage.suffix :=
  Bytes.ofString_append _ _

variable {p : Program}

theorem isSegment_of_fault? (h : p.fault? = none) :
    Text.isBlankText p.name = false ∧ isSegment p.name = true := by
  unfold fault? at h
  split_ifs at h with h₁ h₂
  exact ⟨by simpa using h₁, by simpa using h₂⟩

/-- The name of a checked program is the name of a file. -/
theorem isSegment_name (h : p.fault? = none) : IsSegment (Bytes.ofString p.name) := by
  obtain ⟨hblank, hseg⟩ := isSegment_of_fault? h
  have hne : ∀ s : String, p.name = s → isSegment s = true ∧ Text.isBlankText s = false := by
    rintro s rfl
    exact ⟨hseg, hblank⟩
  refine ⟨⟨?_, ?_, ?_⟩, ?_⟩
  · intro heq
    have := hne "" (Bytes.ofString_injective heq)
    simp [Text.isBlankText] at this
  · intro heq
    have := hne "." (Bytes.ofString_injective heq)
    simp [isSegment] at this
  · intro heq
    have := hne ".." (Bytes.ofString_injective heq)
    simp [isSegment] at this
  · intro hmem
    have hslash := Bytes.mem_of_slash_mem_ofString hmem
    unfold isSegment at hseg
    simp only [Bool.not_eq_true', Bool.or_eq_false_iff, List.any_eq_false] at hseg
    simpa using hseg.2 '/' hslash

theorem noSlash_suffix (stage : Stage) : Bytes.slash ∉ Bytes.ofString stage.suffix := by
  intro hmem
  have hslash := Bytes.mem_of_slash_mem_ofString hmem
  revert hslash
  rcases stage with - | - | - | (- | -) | (- | - | - | - | - | - | -) <;> decide

/-- A suffix is empty or has more than two bytes. -/
theorem length_suffix (stage : Stage) :
    Bytes.ofString stage.suffix = [] ∨ 2 < (Bytes.ofString stage.suffix).length := by
  rcases stage with - | - | - | (- | -) | (- | - | - | - | - | - | -) <;> decide

/-- The file of a stage of a checked program has the name of a file. -/
theorem isSegment_outputFile (h : p.fault? = none) (stage : Stage) :
    IsSegment (p.outputFile stage) := by
  have hname := isSegment_name h
  rw [outputFile_eq]
  rcases length_suffix stage with hs | hs
  · rw [hs, List.append_nil]
    exact hname
  · have hlong : 2 < (Bytes.ofString p.name ++ Bytes.ofString stage.suffix).length := by
      rw [List.length_append]
      omega
    refine ⟨⟨?_, ?_, ?_⟩, ?_⟩
    · intro heq
      simp [heq] at hlong
    · intro heq
      simp [heq] at hlong
    · intro heq
      simp [heq] at hlong
    · rw [List.mem_append]
      exact not_or.2 ⟨hname.no_slash, noSlash_suffix stage⟩

/-- Different stages of a program have different files. -/
theorem outputFile_inj {stage stage' : Stage} (h : stage ≠ .sources) (h' : stage' ≠ .sources)
    (heq : p.outputFile stage = p.outputFile stage') : stage = stage' := by
  rw [outputFile_eq, outputFile_eq] at heq
  exact Stage.suffix_injective h h' (Bytes.ofString_injective (List.append_cancel_left heq))

end Program

namespace Pipeline

variable (pl : Pipeline) {p : Program}

theorem names_dir (h : p.fault? = none) :
    (pl.dir p).names = pl.layout.benchRoot.names ++ [Bytes.ofString p.name] := by
  have hseg := Program.isSegment_name h
  have habs := Path.isAbsolute_of_isSegment hseg []
  rw [List.append_nil] at habs
  rw [dir, Layout.programDir, Path.child, Path.ofString, Path.names_join _ habs,
    Path.names_of_isSegment hseg]

theorem names_bin : (pl.bin p).names = (pl.dir p).names ++ [Bytes.ofString Stage.outputDir] := by
  rw [bin, Path.child, Path.names_join _ rfl, Path.ofString,
    Path.names_of_isSegment isSegment_outputDir]

/-- The bytes of the path of an output below its program's directory. -/
theorem ofString_outputName (p : Program) {stage : Stage} (h : stage ≠ .sources) :
    Bytes.ofString (stage.outputName p.name) =
      Bytes.ofString Stage.outputDir ++ Bytes.slash :: p.outputFile stage := by
  rw [Stage.outputName_eq p.name h, Bytes.ofString_append, Bytes.ofString_append]
  rfl

theorem isAbsolute_outputName (p : Program) {stage : Stage} (h : stage ≠ .sources) :
    (Path.ofString (stage.outputName p.name)).isAbsolute = false := by
  rw [Path.ofString, ofString_outputName p h]
  exact Path.isAbsolute_of_isSegment isSegment_outputDir _

/-- The output of a stage is walked to through the output directory. -/
theorem names_outputPath (hp : p.fault? = none) {stage : Stage} (h : stage ≠ .sources) :
    (pl.outputPath p stage).names = (pl.bin p).names ++ [p.outputFile stage] := by
  have hseg := Program.isSegment_outputFile hp stage
  have hbin : partsAt Bytes.slash (Bytes.ofString Stage.outputDir) =
      [Bytes.ofString Stage.outputDir] := partsAt_of_notMem isSegment_outputDir.no_slash
  have hnames : (Path.ofString (stage.outputName p.name)).names =
      [Bytes.ofString Stage.outputDir, p.outputFile stage] := by
    rw [Path.ofString, ofString_outputName p h, Path.names, Path.parts, partsAt_append, hbin,
      partsAt_of_notMem hseg.no_slash]
    simp [hseg.ne_nil, isSegment_outputDir.ne_nil]
  rw [outputPath, Path.child, Path.names_join _ (isAbsolute_outputName p h), hnames, names_bin]
  simp

end Pipeline

end GuardCost
