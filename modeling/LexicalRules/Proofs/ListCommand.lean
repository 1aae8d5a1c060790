import LexicalRules.CommandLine

/-! # The command that lists tokens

What a run of the command does, from its arguments and a disk to its outcome. Arguments are told apart by
where they stand: `isValueAt` says which are values of the option in front of them, `FileAt` and
`RulesAt` which name a file and which a rule file, and `gather_eq` that the first of the former and the
last of the latter count. `Lists` is what is to come of the two files, and `run_lex` that it does.
-/

namespace LexicalRules
set_option autoImplicit false

/-! ## Disks -/

/-- What is under each path: the bytes of a file, or the reason why none can be read. -/
abbrev Disk := String → Except ReadFault ByteArray

namespace Disk

def read (disk : Disk) (path : String) : Except ReadFault String :=
  (disk path).bind textOfBytes

/-- The file at `path` can be read, and its bytes are `text` in UTF-8. -/
def Holds (disk : Disk) (path text : String) : Prop :=
  disk path = .ok text.toUTF8

theorem read_eq_ok_iff (disk : Disk) (path text : String) :
    disk.read path = .ok text ↔ disk.Holds path text := by
  unfold read Holds
  cases disk path with
  | error fault => simp [Except.bind]
  | ok bytes => simpa [Except.bind] using textOfBytes_eq_ok_iff bytes text

end Disk

/-- A store in memory as a disk. -/
def FileStore.toDisk (store : FileStore) : Disk := fun path =>
  if path = "" then .error .missing
  else match store.follow (origin path) (components path) with
    | .ok (.file bytes) => .ok bytes
    | .ok .directory => .error .isADirectory
    | .error fault => .error fault

theorem FileStore.read_toDisk (store : FileStore) : store.toDisk.read = store.read := by
  funext path
  unfold Disk.read FileStore.toDisk FileStore.read
  by_cases hpath : path = ""
  · simp [hpath, Except.bind]
  · simp only [if_neg hpath]
    cases store.follow (origin path) (components path) with
    | error fault => rfl
    | ok entry => cases entry <;> rfl

namespace CommandLine

/-! ## Arguments by where they stand -/

/-- Whether the argument at `i` is the value of the option in front of it. -/
def isValueAt (args : List String) : Nat → Bool
  | 0 => false
  | i + 1 => args[i]? == some rulesOption && !isValueAt args i

/-- The argument `arg` at `i` names a file: it is not a value and does not start with a dash. -/
structure FileAt (args : List String) (i : Nat) (arg : String) : Prop where
  stands : args[i]? = some arg
  noDash : arg.toList.head? ≠ some '-'
  noValue : isValueAt args i = false

/-- The argument at `i` is an option with the rule file `path`, behind it or written into it. -/
structure RulesAt (args : List String) (i : Nat) (path : String) : Prop where
  given : args[i]? = some rulesOption ∧ args[i + 1]? = some path ∨
    args[i]? = some (rulesOption ++ "=" ++ path)
  noValue : isValueAt args i = false

/-- What the first place has of those that have something. -/
def IsFirst (P : Nat → String → Prop) : Option String → Prop
  | none => ∀ i a, ¬P i a
  | some a => ∃ i, P i a ∧ ∀ j b, P j b → i ≤ j

/-- What the last place has of those that have something. -/
def IsLast (P : Nat → String → Prop) : Option String → Prop
  | none => ∀ i a, ¬P i a
  | some a => ∃ i, P i a ∧ ∀ j b, P j b → j ≤ i

section Places
variable {P Q : Nat → String → Prop} {x found : Option String}
variable (hzero : ∀ a, P 0 a ↔ x = some a) (hsucc : ∀ i a, P (i + 1) a ↔ Q i a)
include hzero hsucc

theorem nowhere_cons (hx : x = none) (h : ∀ i a, ¬Q i a) : ∀ i a, ¬P i a := by
  intro i a ha
  cases i with
  | zero => cases hx.symm.trans ((hzero a).mp ha)
  | succ i => exact h i a ((hsucc i a).mp ha)

theorem IsFirst.cons (h : IsFirst Q found) : IsFirst P (x.or found) := by
  cases x with
  | some a => exact ⟨0, (hzero a).mpr rfl, fun j _ _ => Nat.zero_le j⟩
  | none =>
    cases found with
    | none => exact nowhere_cons hzero hsucc rfl h
    | some b =>
      obtain ⟨i, hi, hfirst⟩ := h
      refine ⟨i + 1, (hsucc i b).mpr hi, fun j c hc => ?_⟩
      cases j with
      | zero => cases (hzero c).mp hc
      | succ j => exact Nat.succ_le_succ (hfirst j c ((hsucc j c).mp hc))

theorem IsLast.cons (h : IsLast Q found) : IsLast P (found.or x) := by
  cases found with
  | some b =>
    obtain ⟨i, hi, hlast⟩ := h
    refine ⟨i + 1, (hsucc i b).mpr hi, fun j c hc => ?_⟩
    cases j with
    | zero => exact Nat.zero_le _
    | succ j => exact Nat.succ_le_succ (hlast j c ((hsucc j c).mp hc))
  | none =>
    cases x with
    | none => exact nowhere_cons hzero hsucc rfl h
    | some b =>
      refine ⟨0, (hzero b).mpr rfl, fun j c hc => ?_⟩
      cases j with
      | zero => exact Nat.le_refl 0
      | succ j => exact absurd ((hsucc j c).mp hc) (h j c)

end Places

/-! ## One argument -/

theorem inlineRules?_eq_some_iff (arg path : String) :
    inlineRules? arg = some path ↔ arg = rulesOption ++ "=" ++ path := by
  simp only [inlineRules?]
  constructor
  · intro h
    split at h
    · rename_i hopening
      obtain ⟨behind, hb⟩ := List.isPrefixOf_iff_prefix.mp hopening
      rw [← hb, List.drop_left, Option.some_inj] at h
      rw [← String.toList_inj, ← hb, ← h]
      simp
    · cases h
  · rintro rfl
    simp [rulesOption]

theorem isOption_of_inlineRules? {arg path : String} (h : inlineRules? arg = some path) :
    isOption arg = true := by
  rw [(inlineRules?_eq_some_iff arg path).mp h]
  simp [isOption, rulesOption]

theorem inlineRules?_rulesOption : inlineRules? rulesOption = none := by
  decide

/-- The file that one argument adds, unless there is one. -/
def fileOf (arg : String) : Option String :=
  if isOption arg then none else some arg

theorem single_eq (found : ListArguments) (arg : String) :
    found.single arg = ⟨found.file.or (fileOf arg), (inlineRules? arg).or found.rules⟩ := by
  obtain ⟨file, rules⟩ := found
  unfold ListArguments.single fileOf
  cases hr : inlineRules? arg with
  | some path => simp [isOption_of_inlineRules? hr]
  | none => cases ho : isOption arg <;> cases file <;> simp

theorem isValueAt_cons {arg : String} (h : arg ≠ rulesOption) (rest : List String) (i : Nat) :
    isValueAt (arg :: rest) (i + 1) = isValueAt rest i := by
  induction i with
  | zero => simp [isValueAt, h]
  | succ i ih => rw [isValueAt, ih, isValueAt, List.getElem?_cons_succ]

theorem isValueAt_option (value : String) (rest : List String) (i : Nat) :
    isValueAt (rulesOption :: value :: rest) (i + 2) = isValueAt rest i := by
  induction i with
  | zero => simp [isValueAt]
  | succ i ih => rw [isValueAt, ih, isValueAt, List.getElem?_cons_succ, List.getElem?_cons_succ]

section Shift
variable {args rest : List String} {i j : Nat}

theorem fileAt_congr (hstands : args[i]? = rest[j]?) (hvalue : isValueAt args i = isValueAt rest j)
    (a : String) : FileAt args i a ↔ FileAt rest j a :=
  ⟨fun h => ⟨hstands ▸ h.stands, h.noDash, hvalue ▸ h.noValue⟩,
    fun h => ⟨hstands ▸ h.stands, h.noDash, hvalue ▸ h.noValue⟩⟩

theorem rulesAt_congr (hstands : args[i]? = rest[j]?) (hnext : args[i + 1]? = rest[j + 1]?)
    (hvalue : isValueAt args i = isValueAt rest j) (path : String) :
    RulesAt args i path ↔ RulesAt rest j path := by
  have hgiven : ∀ xs : List String, ∀ k, RulesAt xs k path ↔
      (xs[k]? = some rulesOption ∧ xs[k + 1]? = some path ∨
        xs[k]? = some (rulesOption ++ "=" ++ path)) ∧ isValueAt xs k = false :=
    fun _ _ => ⟨fun h => ⟨h.given, h.noValue⟩, fun h => ⟨h.1, h.2⟩⟩
  rw [hgiven, hgiven, hstands, hnext, hvalue]

end Shift

theorem fileAt_zero (arg : String) (rest : List String) (a : String) :
    FileAt (arg :: rest) 0 a ↔ fileOf arg = some a := by
  have hfile : fileOf arg = some a ↔ arg = a ∧ a.toList.head? ≠ some '-' := by
    unfold fileOf isOption
    split
    · rename_i h
      exact ⟨nofun, fun ⟨heq, hne⟩ => absurd (heq ▸ eq_of_beq h) hne⟩
    · rename_i h
      rw [Option.some_inj]
      exact ⟨fun heq => ⟨heq, fun hdash => h (beq_of_eq (heq ▸ hdash))⟩, fun ⟨heq, _⟩ => heq⟩
  rw [hfile]
  exact ⟨fun h => ⟨Option.some.inj h.stands, h.noDash⟩, fun ⟨heq, hne⟩ => ⟨congrArg some heq, hne, rfl⟩⟩

theorem rulesAt_zero (arg : String) (rest : List String) (path : String) :
    RulesAt (arg :: rest) 0 path ↔
      arg = rulesOption ∧ rest[0]? = some path ∨ inlineRules? arg = some path := by
  rw [inlineRules?_eq_some_iff]
  constructor
  · rintro ⟨given, -⟩
    simpa using given
  · intro h
    exact ⟨by simpa using h, rfl⟩

/-! ## The loop over the arguments -/

section Loop
variable {rest : List String} {file rules : Option String}

theorem IsFirst.file_cons {arg : String} (h : arg ≠ rulesOption) (hfile : IsFirst (FileAt rest) file) :
    IsFirst (FileAt (arg :: rest)) ((fileOf arg).or file) :=
  hfile.cons (fileAt_zero arg rest) fun i =>
    fileAt_congr List.getElem?_cons_succ (isValueAt_cons h rest i)

theorem IsLast.rules_cons {arg : String} (h : arg ≠ rulesOption) (hrules : IsLast (RulesAt rest) rules) :
    IsLast (RulesAt (arg :: rest)) (rules.or (inlineRules? arg)) :=
  hrules.cons (fun path => by simp [rulesAt_zero, h]) fun i =>
    rulesAt_congr List.getElem?_cons_succ List.getElem?_cons_succ (isValueAt_cons h rest i)

theorem IsFirst.file_option (value : String) (hfile : IsFirst (FileAt rest) file) :
    IsFirst (FileAt (rulesOption :: value :: rest)) file := by
  have hoption : fileOf rulesOption = none := by decide
  -- whatever the value looks like, its place names nothing
  have hvalue : ∀ a, FileAt (rulesOption :: value :: rest) 1 a ↔ none = some a :=
    fun a => ⟨fun h => absurd h.noValue (by simp [isValueAt]), nofun⟩
  have hrest : ∀ i a, FileAt (rulesOption :: value :: rest) (i + 2) a ↔ FileAt rest i a :=
    fun i => fileAt_congr rfl (isValueAt_option value rest i)
  have hbehind : IsFirst (fun i => FileAt (rulesOption :: value :: rest) (i + 1)) (none.or file) :=
    hfile.cons hvalue hrest
  simpa [hoption] using hbehind.cons (fileAt_zero rulesOption (value :: rest)) fun _ _ => Iff.rfl

theorem IsLast.rules_option (value : String) (hrules : IsLast (RulesAt rest) rules) :
    IsLast (RulesAt (rulesOption :: value :: rest)) (rules.or (some value)) := by
  have hvalue : ∀ a, RulesAt (rulesOption :: value :: rest) 1 a ↔ none = some a :=
    fun a => ⟨fun h => absurd h.noValue (by simp [isValueAt]), nofun⟩
  have hrest : ∀ i a, RulesAt (rulesOption :: value :: rest) (i + 2) a ↔ RulesAt rest i a :=
    fun i => rulesAt_congr rfl rfl (isValueAt_option value rest i)
  have hbehind : IsLast (fun i => RulesAt (rulesOption :: value :: rest) (i + 1)) (rules.or none) :=
    hrules.cons hvalue hrest
  rw [Option.or_none] at hbehind
  refine hbehind.cons (fun path => ?_) fun _ _ => Iff.rfl
  simp [rulesAt_zero, inlineRules?_rulesOption]

/-- **The loop finds what is named first and last.** Going on from `found`, the loop over `args` adds the
first argument that names a file, unless there is one, and the last that names a rule file. -/
theorem gather_eq (args : List String) (found : ListArguments) :
    ∃ file rules, IsFirst (FileAt args) file ∧ IsLast (RulesAt args) rules ∧
      ListArguments.gather args found = ⟨found.file.or file, rules.or found.rules⟩ := by
  fun_induction ListArguments.gather args found with
  | case1 found =>
    refine ⟨none, none, fun i a h => ?_, fun i a h => ?_, ?_⟩
    · simpa using h.stands
    · simpa using h.given
    · simp
  | case2 arg found =>
    -- an option for a rule file with nothing behind it adds nothing
    have hfile : IsFirst (FileAt [arg]) ((fileOf arg).or none) :=
      IsFirst.cons (Q := fun _ _ => False) (fileAt_zero arg [])
        (fun i a => ⟨fun h => by simpa using h.stands, False.elim⟩) fun _ _ => id
    have hrules : IsLast (RulesAt [arg]) ((none : Option String).or (inlineRules? arg)) :=
      IsLast.cons (Q := fun _ _ => False) (fun path => by simp [rulesAt_zero])
        (fun i a => ⟨fun h => by simpa using h.given, False.elim⟩) fun _ _ => id
    exact ⟨_, _, hfile, hrules, by simp [single_eq]⟩
  | case3 value rest found ih =>
    obtain ⟨file, rules, hfile, hrules, heq⟩ := ih
    exact ⟨_, _, hfile.file_option value, hrules.rules_option value, by simp [heq]⟩
  | case4 arg value rest found h ih =>
    obtain ⟨file, rules, hfile, hrules, heq⟩ := ih
    refine ⟨_, _, hfile.file_cons h, hrules.rules_cons h, ?_⟩
    rw [heq, single_eq]
    simp [Option.or_assoc]

end Loop

example : ListArguments.gather ["--rules", "-a", "-b", "c", "d", "--rules=e", "--rules"] {} =
    ⟨some "c", some "e"⟩ := by decide

/-! ## What a run gives -/

/-- What stands on the error stream after a run, where `wording` has the words for what is wrong with
JSON. -/
def Outcome.errorText (wording : Json.Fault → String) (o : Outcome) : String :=
  match o.complaint with
  | none => ""
  | some complaint => complaint.text wording

/-- The file at `path` has rules and settings, those of `f`. -/
def GivesRules (disk : Disk) (path : String) (f : RuleFile) : Prop :=
  ∃ text, disk.Holds path text ∧ RuleFile.parse text = .ok f

/-- `text` says why there is no text to read at `path`. -/
def AboutFile (disk : Disk) (path text : String) : Prop :=
  ∃ fault, disk.read path = .error fault ∧
    text = "error: cannot read '" ++ path ++ "': " ++ fault.message ++ "\n"

/-- `text` says why there are no rules to read at `path`. -/
def AboutRules (disk : Disk) (wording : Json.Fault → String) (path text : String) : Prop :=
  AboutFile disk path text ∨
    ∃ source fault, disk.Holds path source ∧ RuleFile.parse source = .error fault ∧
      text = "error: malformed rule file '" ++ path ++ "': " ++ wording fault ++ "\n"

/-- What comes of a listing of `file` under the rules of `rules`, where either may not have been named. -/
structure Lists (disk : Disk) (wording : Json.Fault → String) (file rules : Option String)
    (o : Outcome) : Prop where
  code_eq_zero_iff : o.code = 0 ↔ ∃ path rulesPath f text, file = some path ∧
    rules = some rulesPath ∧ GivesRules disk rulesPath f ∧ disk.Holds path text
  success : ∀ path rulesPath f text, file = some path → rules = some rulesPath →
    GivesRules disk rulesPath f → disk.Holds path text →
      o.output = listing ((Lexer.ofRules f.rules f.settings).tokenize text) ∧
      o.errorText wording = ""
  failure : o.code ≠ 0 → o.code = 1 ∧ o.output = ""
  incomplete : file = none ∨ rules = none →
    o.errorText wording = "Usage: rulex lex <file> --rules <rules.json>\n"
  noRules : ∀ path rulesPath, file = some path → rules = some rulesPath →
    (∀ f, ¬GivesRules disk rulesPath f) → AboutRules disk wording rulesPath (o.errorText wording)
  noText : ∀ path rulesPath f, file = some path → rules = some rulesPath →
    GivesRules disk rulesPath f → (∀ text, ¬disk.Holds path text) →
      AboutFile disk path (o.errorText wording)

section Words
variable (wording : Json.Fault → String) (path : String)

theorem text_load (e : LoadError) :
    (Complaint.load e).text wording = "error: " ++ e.message wording ++ "\n" := rfl

theorem message_unreadable (fault : ReadFault) :
    (LoadError.unreadable path fault).message wording =
      "cannot read '" ++ path ++ "': " ++ fault.message := rfl

theorem message_malformed (fault : Json.Fault) :
    (LoadError.malformed path fault).message wording =
      "malformed rule file '" ++ path ++ "': " ++ wording fault := rfl

theorem text_unreadable (fault : ReadFault) :
    (Complaint.load (.unreadable path fault)).text wording =
      "error: cannot read '" ++ path ++ "': " ++ fault.message ++ "\n" := by
  have hopening : "error: " ++ "cannot read '" = "error: cannot read '" := by simp
  rw [text_load, message_unreadable, ← hopening]
  simp only [String.append_assoc]

theorem text_malformed (fault : Json.Fault) :
    (Complaint.load (.malformed path fault)).text wording =
      "error: malformed rule file '" ++ path ++ "': " ++ wording fault ++ "\n" := by
  have hopening : "error: " ++ "malformed rule file '" = "error: malformed rule file '" := by simp
  rw [text_load, message_malformed, ← hopening]
  simp only [String.append_assoc]

end Words

/-! ## The four ends of a listing -/

section Ends
variable {disk : Disk} {wording : Json.Fault → String}

theorem not_holds {path : String} {fault : ReadFault} (hread : disk.read path = .error fault)
    (text : String) : ¬disk.Holds path text := by
  intro hholds
  cases hread.symm.trans ((disk.read_eq_ok_iff path text).mpr hholds)

theorem holds_unique {path text text' : String} (h : disk.Holds path text) (h' : disk.Holds path text') :
    text = text' := by
  rw [← disk.read_eq_ok_iff] at h h'
  exact Except.ok.inj (h.symm.trans h')

theorem ofRead_of_gives {path : String} {f : RuleFile} (h : GivesRules disk path f) :
    RuleFile.ofRead path (disk.read path) = .ok f := by
  obtain ⟨text, hholds, hparse⟩ := h
  rw [(disk.read_eq_ok_iff path text).mpr hholds]
  simp only [RuleFile.ofRead, hparse]

/-- A rule file gives rules, or there is a load error about it. -/
theorem ofRead_cases (disk : Disk) (wording : Json.Fault → String) (path : String) :
    (∃ f, GivesRules disk path f) ∨
      ∃ e, RuleFile.ofRead path (disk.read path) = .error e ∧ (∀ f, ¬GivesRules disk path f) ∧
        AboutRules disk wording path ((Complaint.load e).text wording) := by
  cases hread : disk.read path with
  | error fault =>
    refine .inr ⟨.unreadable path fault, rfl, ?_, .inl ⟨fault, hread, text_unreadable wording path fault⟩⟩
    rintro f ⟨text, hholds, -⟩
    exact not_holds hread text hholds
  | ok source =>
    have hsource : disk.Holds path source := (disk.read_eq_ok_iff path source).mp hread
    cases hparse : RuleFile.parse source with
    | ok f => exact .inl ⟨f, source, hsource, hparse⟩
    | error fault =>
      refine .inr ⟨.malformed path fault, ?_, ?_,
        .inr ⟨source, fault, hsource, hparse, text_malformed wording path fault⟩⟩
      · simp only [RuleFile.ofRead, hparse]
      · rintro f ⟨text, hholds, hf⟩
        obtain rfl := holds_unique hsource hholds
        cases hparse.symm.trans hf

theorem Lists.of_incomplete {file rules : Option String} (h : file = none ∨ rules = none) :
    Lists disk wording file rules (.failure "" .usage) where
  code_eq_zero_iff := by
    refine ⟨nofun, ?_⟩
    rintro ⟨path, rulesPath, f, text, rfl, rfl, -⟩
    cases h <;> contradiction
  success := by
    rintro path rulesPath f text rfl rfl
    cases h <;> contradiction
  failure := fun _ => ⟨rfl, rfl⟩
  incomplete := fun _ => rfl
  noRules := by
    rintro path rulesPath rfl rfl
    cases h <;> contradiction
  noText := by
    rintro path rulesPath f rfl rfl
    cases h <;> contradiction

variable {path rulesPath : String}

theorem Lists.of_noRules {e : LoadError} (hgives : ∀ f, ¬GivesRules disk rulesPath f)
    (habout : AboutRules disk wording rulesPath ((Complaint.load e).text wording)) :
    Lists disk wording (some path) (some rulesPath) (.failure "" (.load e)) where
  code_eq_zero_iff := by
    refine ⟨nofun, ?_⟩
    rintro ⟨_, _, f, _, -, ⟨⟩, hf, -⟩
    exact absurd hf (hgives f)
  success := by
    rintro _ _ f _ - ⟨⟩ hf
    exact absurd hf (hgives f)
  failure := fun _ => ⟨rfl, rfl⟩
  incomplete := nofun
  noRules := by
    rintro _ _ - ⟨⟩ -
    exact habout
  noText := by
    rintro _ _ f - ⟨⟩ hf
    exact absurd hf (hgives f)

theorem Lists.of_noText {f : RuleFile} {fault : ReadFault} (hgives : GivesRules disk rulesPath f)
    (hread : disk.read path = .error fault) :
    Lists disk wording (some path) (some rulesPath) (.failure "" (.load (.unreadable path fault))) where
  code_eq_zero_iff := by
    refine ⟨nofun, ?_⟩
    rintro ⟨_, _, _, text, ⟨⟩, -, -, hholds⟩
    exact absurd hholds (not_holds hread text)
  success := by
    rintro _ _ _ text ⟨⟩ - - hholds
    exact absurd hholds (not_holds hread text)
  failure := fun _ => ⟨rfl, rfl⟩
  incomplete := nofun
  noRules := by
    rintro _ _ - ⟨⟩ hnone
    exact absurd hgives (hnone f)
  noText := by
    rintro _ _ _ ⟨⟩ - - -
    exact ⟨fault, hread, text_unreadable wording path fault⟩

theorem Lists.of_text {f : RuleFile} {text : String} (hgives : GivesRules disk rulesPath f)
    (hholds : disk.Holds path text) :
    Lists disk wording (some path) (some rulesPath) (.success (listing (f.lexer.tokenize text))) where
  code_eq_zero_iff := ⟨fun _ => ⟨path, rulesPath, f, text, rfl, rfl, hgives, hholds⟩, fun _ => rfl⟩
  success := by
    rintro _ _ f' text' ⟨⟩ ⟨⟩ hgives' hholds'
    obtain rfl := holds_unique hholds hholds'
    cases (ofRead_of_gives hgives).symm.trans (ofRead_of_gives hgives')
    exact ⟨rfl, rfl⟩
  failure := nofun
  incomplete := nofun
  noRules := by
    rintro _ _ - ⟨⟩ hnone
    exact absurd hgives (hnone f)
  noText := by
    rintro _ _ _ ⟨⟩ - - hnone
    exact absurd hholds (hnone text)

end Ends

/-! ## Runs -/

theorem listFile_eq (disk : Disk) (path rulesPath : String) :
    listFile (m := Id) disk.read path rulesPath =
      (RuleFile.ofRead rulesPath (disk.read rulesPath)).bind fun f =>
        match disk.read path with
        | .error fault => .error (.unreadable path fault)
        | .ok text => .ok (listing (f.lexer.tokenize text)) := by
  simp only [listFile, loadRules, pure, bind]
  cases RuleFile.ofRead rulesPath (disk.read rulesPath) with
  | error e => rfl
  | ok f => cases disk.read path <;> rfl

theorem runList_eq (disk : Disk) {args : List String} {path rulesPath : String}
    (h : ListArguments.gather args {} = ⟨some path, some rulesPath⟩) :
    runList (m := Id) disk.read args =
      match listFile (m := Id) disk.read path rulesPath with
      | .ok text => .success text
      | .error e => .failure "" (.load e) := by
  simp only [runList, h]
  rfl

theorem lists_runList (disk : Disk) (wording : Json.Fault → String) (args : List String)
    {file rules : Option String} (h : ListArguments.gather args {} = ⟨file, rules⟩) :
    Lists disk wording file rules (runList (m := Id) disk.read args) := by
  match file, rules with
  | none, _ =>
    simp only [runList, h]
    exact .of_incomplete (.inl rfl)
  | some _, none =>
    simp only [runList, h]
    exact .of_incomplete (.inr rfl)
  | some path, some rulesPath =>
    rw [runList_eq disk h, listFile_eq]
    -- the rules come first, so that the file is not looked at if there are none
    obtain ⟨f, hgives⟩ | ⟨e, he, hgives, habout⟩ := ofRead_cases disk wording rulesPath
    · rw [ofRead_of_gives hgives]
      cases hread : disk.read path with
      | error fault => exact .of_noText hgives hread
      | ok text => exact .of_text hgives ((disk.read_eq_ok_iff path text).mp hread)
    · rw [he]
      exact .of_noRules hgives habout

theorem lists_run (disk : Disk) (wording : Json.Fault → String) (args : List String)
    {file rules : Option String} (h : ListArguments.gather args {} = ⟨file, rules⟩) :
    Lists disk wording file rules (run (m := Id) disk.read ("lex" :: args)) := by
  have hrun : run (m := Id) disk.read ("lex" :: args) = runList (m := Id) disk.read args := by
    simp [run]
  rw [hrun]
  exact lists_runList disk wording args h

/-- Runs on a directory in memory are runs on a disk. -/
theorem lists_run_store (store : FileStore) (wording : Json.Fault → String) (args : List String)
    {file rules : Option String} (h : ListArguments.gather args {} = ⟨file, rules⟩) :
    Lists store.toDisk wording file rules (run (m := Id) store.read ("lex" :: args)) := by
  rw [← store.read_toDisk]
  exact lists_run store.toDisk wording args h

/-- **A run of the listing command.** For any arguments and any disk, the file is the first argument that
names one and the rule file the last; the code, the output and the error text are those of a listing of
the one under the other. -/
theorem run_lex (disk : Disk) (wording : Json.Fault → String) (args : List String) :
    ∃ file rules, ListArguments.gather args {} = ⟨file, rules⟩ ∧
      IsFirst (FileAt args) file ∧ IsLast (RulesAt args) rules ∧
      Lists disk wording file rules (run (m := Id) disk.read ("lex" :: args)) := by
  obtain ⟨file, rules, hfile, hrules, heq⟩ := gather_eq args {}
  have hgather : ListArguments.gather args {} = ⟨file, rules⟩ := by simpa using heq
  exact ⟨file, rules, hgather, hfile, hrules, lists_run disk wording args hgather⟩

end CommandLine

end LexicalRules
