import Mathlib.Data.List.Induction
import SeriesAcl.Command.Arguments
import SeriesAcl.Proofs.Text.Occurrence

/-!
# The grammar of command lines

A command line is made of chunks: words, flags with the value behind them, and switches. Every list
of arguments is a row of chunks up to its end, to a request for help, or to a fault
(`exists_chunks`). What the chunks say is told by the row as a whole, and the reading of the
arguments finds just that (`scan_arguments`). So a row of chunks is accepted exactly when its words
spell a command, and what is no row of chunks up to a request for help is turned down
(`parse_grammar`).
-/

namespace SeriesAcl.Arguments

/-! ### Chunks -/

/-- The argument that names a setting. -/
def Setting.flag : Setting → String
  | .url => "--url"
  | .user => "--user"
  | .password => "--password"
  | .timeout => "--timeout-ms"

/-- A setting takes a value: any text, but a number for the timeout. -/
def Setting.Takes : Setting → String → Prop
  | .timeout, value => ∃ n, Text.readUnsigned value = .ok n
  | _, _ => True

/-- The argument that turns a switch on. -/
def Switch.flag : Switch → String
  | .download => "--download"
  | .annotate => "--annotate"
  | .override => "--override"

/-- The arguments that ask for help. -/
inductive HelpFlag where
  | short
  | long
  deriving DecidableEq, Repr

/-- A request for help as it is written. -/
def HelpFlag.text : HelpFlag → String
  | .short => "-h"
  | .long => "--help"

/-- An argument is a word: it does not begin as a flag does, and does not ask for help. -/
def IsWord (text : String) : Prop :=
  ¬"--".toList <+: text.toList ∧ text ≠ "-h"

/-- A piece of a command line. -/
inductive Chunk where
  | word (text : String) (h : IsWord text)
  | setting (s : Setting) (value : String) (h : s.Takes value)
  | switch (s : Switch)

namespace Chunk

/-- The arguments that a chunk is written with. -/
def arguments : Chunk → List String
  | .word text _ => [text]
  | .setting s value _ => [s.flag, value]
  | .switch s => [s.flag]

/-- The text of a word. -/
def word? : Chunk → Option String
  | .word text _ => some text
  | _ => none

/-- The value that a chunk gives to a setting. -/
def value? (s : Setting) : Chunk → Option String
  | .setting s' value _ => if s' = s then some value else none
  | _ => none

/-- Whether a chunk turns a switch on. -/
def turnsOn (s : Switch) : Chunk → Bool
  | .switch s' => s' = s
  | _ => false

end Chunk

/-- The arguments that chunks are written with. -/
def arguments (chunks : List Chunk) : List String :=
  chunks.flatMap Chunk.arguments

/-! ### What chunks say -/

section Meaning

variable (chunks : List Chunk)

/-- The words among chunks, in order. -/
def words : List String :=
  chunks.filterMap Chunk.word?

/-- The value that is given to a setting last. -/
def lastValue (setting : Setting) : Option String :=
  (chunks.filterMap (Chunk.value? setting)).getLast?

/-- Whether a switch is on. -/
def isOn (switch : Switch) : Bool :=
  chunks.any (Chunk.turnsOn switch)

/-- The settings that chunks give. -/
def settings : ConfigLayer where
  baseUrl := lastValue chunks .url
  user := lastValue chunks .user
  password := lastValue chunks .password
  timeoutMs := (lastValue chunks .timeout).bind fun value ↦ (Text.readUnsigned value).toOption
  rolePageSize := none

/-- The flags of a template that chunks turn on. -/
def flags : Flags :=
  ⟨isOn chunks .download, isOn chunks .annotate⟩

/-- What there is to be read in chunks. -/
def seen : Seen :=
  ⟨settings chunks, words chunks, flags chunks, isOn chunks .override⟩

end Meaning

/-- Words spell a command, given the flags beside them. -/
inductive Spells (flags : Flags) (overrideEvents : Bool) : List String → Command → Prop
  | help : Spells flags overrideEvents [] .help
  | templates : Spells flags overrideEvents ["templates"] .templates
  | show (series : String) : Spells flags overrideEvents ["show", series] (.show series)
  | apply (series template : String) :
      Spells flags overrideEvents ["apply", series, template]
        (.apply series template flags overrideEvents)
  | roles : Spells flags overrideEvents ["roles"] (.roles none)
  | search (text : String) : Spells flags overrideEvents ["roles", text] (.roles (some text))

/-- What cannot be read on, and why: a flag without its value, a timeout that is no number, and
what begins as a flag and is none. -/
inductive Faulty : List String → Error → Prop
  | missing (setting : Setting) : Faulty [setting.flag] (.missingValue setting.flag)
  | invalid {value : String} {fault : Text.UnsignedFault} (rest : List String) :
      Text.readUnsigned value = .error fault →
        Faulty (Setting.flag .timeout :: value :: rest)
          (.invalidValue (Setting.flag .timeout) value fault.message)
  | unknown {arg : String} (rest : List String) :
      "--".toList <+: arg.toList → (∀ setting, arg ≠ Setting.flag setting) →
        (∀ switch, arg ≠ Switch.flag switch) → (∀ help, arg ≠ HelpFlag.text help) →
        Faulty (arg :: rest) (.unknownFlag arg)

/-! ### Single arguments -/

private theorem Setting.ofFlag?_eq_some_iff {arg : String} {s : Setting} :
    Setting.ofFlag? arg = some s ↔ arg = s.flag := by
  constructor
  · intro h
    unfold Setting.ofFlag? at h
    split_ifs at h <;> cases h <;> assumption
  · rintro rfl
    cases s <;> decide

private theorem Setting.ofFlag?_eq_none_iff {arg : String} :
    Setting.ofFlag? arg = none ↔ ∀ s : Setting, arg ≠ s.flag := by
  simp only [Option.eq_none_iff_forall_ne_some, ne_eq, Setting.ofFlag?_eq_some_iff]

private theorem Switch.ofFlag?_eq_some_iff {arg : String} {s : Switch} :
    Switch.ofFlag? arg = some s ↔ arg = s.flag := by
  constructor
  · intro h
    unfold Switch.ofFlag? at h
    split_ifs at h <;> cases h <;> assumption
  · rintro rfl
    cases s <;> decide

private theorem Switch.ofFlag?_eq_none_iff {arg : String} :
    Switch.ofFlag? arg = none ↔ ∀ s : Switch, arg ≠ s.flag := by
  simp only [Option.eq_none_iff_forall_ne_some, ne_eq, Switch.ofFlag?_eq_some_iff]

private theorem asksHelp_iff {arg : String} :
    asksHelp arg = true ↔ ∃ help : HelpFlag, arg = help.text := by
  rw [asksHelp, Bool.or_eq_true, beq_iff_eq, beq_iff_eq]
  constructor
  · rintro (rfl | rfl)
    · exact ⟨.short, rfl⟩
    · exact ⟨.long, rfl⟩
  · rintro ⟨help | help, rfl⟩
    · exact .inl rfl
    · exact .inr rfl

private theorem Switch.flag_ne (s : Switch) (s' : Setting) : s.flag ≠ s'.flag := by
  cases s <;> cases s' <;> decide

private theorem HelpFlag.text_ne (help : HelpFlag) (s : Setting) : help.text ≠ s.flag := by
  cases help <;> cases s <;> decide

private theorem HelpFlag.text_ne' (help : HelpFlag) (s : Switch) : help.text ≠ s.flag := by
  cases help <;> cases s <;> decide

section Word

variable {text : String} (h : IsWord text)
include h

private theorem IsWord.ne_setting (s : Setting) : text ≠ s.flag := by
  rintro rfl
  exact h.1 (by cases s <;> decide)

private theorem IsWord.ne_switch (s : Switch) : text ≠ s.flag := by
  rintro rfl
  exact h.1 (by cases s <;> decide)

private theorem IsWord.not_asksHelp : ¬asksHelp text = true := by
  rw [asksHelp_iff]
  rintro ⟨help | help, rfl⟩
  · exact h.2 rfl
  · exact h.1 (by decide)

end Word

/-- A value that a setting does not take is one for the timeout. -/
theorem Setting.takes_or (s : Setting) (value : String) :
    s.Takes value ∨ s = .timeout ∧ ∃ fault, Text.readUnsigned value = .error fault := by
  cases s with
  | url | user | password => exact .inl trivial
  | timeout =>
    cases hread : Text.readUnsigned value with
    | ok n => exact .inl ⟨n, hread⟩
    | error fault => exact .inr ⟨rfl, fault, rfl⟩

/-! ### Arguments one chunk after another -/

private theorem scan_word {text : String} (h : IsWord text) (seen : Seen) (rest : List String) :
    scan seen (text :: rest) = scan { seen with words := seen.words ++ [text] } rest := by
  have hflag : ¬Text.startsWith "--" text = true := Text.startsWith_iff.not.mpr h.1
  rw [scan, Setting.ofFlag?_eq_none_iff.mpr h.ne_setting,
    Switch.ofFlag?_eq_none_iff.mpr h.ne_switch]
  dsimp only
  rw [if_neg h.not_asksHelp, if_neg hflag]

private theorem scan_setting {s : Setting} {value : String} {seen : Seen} {overrides : ConfigLayer}
    (h : s.set value seen.overrides = .ok overrides) (rest : List String) :
    scan seen (s.flag :: value :: rest) = scan { seen with overrides := overrides } rest := by
  rw [scan, Setting.ofFlag?_eq_some_iff.mpr rfl]
  dsimp only
  rw [h]

private theorem scan_switch (s : Switch) (seen : Seen) (rest : List String) :
    scan seen (s.flag :: rest) = scan (s.turnOn seen) rest := by
  rw [scan, Setting.ofFlag?_eq_none_iff.mpr s.flag_ne, Switch.ofFlag?_eq_some_iff.mpr rfl]

private theorem scan_help (help : HelpFlag) (seen : Seen) (rest : List String) :
    scan seen (help.text :: rest) = .ok (true, seen) := by
  rw [scan, Setting.ofFlag?_eq_none_iff.mpr help.text_ne,
    Switch.ofFlag?_eq_none_iff.mpr help.text_ne']
  dsimp only
  rw [if_pos (asksHelp_iff.mpr ⟨help, rfl⟩)]

private theorem scan_faulty {tail : List String} {e : Error} (h : Faulty tail e) (seen : Seen) :
    scan seen tail = .error e := by
  cases h with
  | missing s => rw [scan, Setting.ofFlag?_eq_some_iff.mpr rfl]
  | invalid rest hread =>
    rw [scan, Setting.ofFlag?_eq_some_iff.mpr rfl]
    simp only [Setting.set, hread]
    rfl
  | unknown rest hflag hsetting hswitch hhelp =>
    have hask : ¬asksHelp _ = true := asksHelp_iff.not.mpr (not_exists.mpr hhelp)
    rw [scan, Setting.ofFlag?_eq_none_iff.mpr hsetting, Switch.ofFlag?_eq_none_iff.mpr hswitch]
    dsimp only
    rw [if_neg hask, if_pos (Text.startsWith_iff.mpr hflag)]

section Concat

variable (chunks : List Chunk) (c : Chunk)

private theorem words_concat : words (chunks ++ [c]) = words chunks ++ c.word?.toList := by
  rw [words, List.filterMap_append, ← words]
  cases c <;> rfl

private theorem lastValue_concat (s : Setting) :
    lastValue (chunks ++ [c]) s = (c.value? s).or (lastValue chunks s) := by
  rw [lastValue, List.filterMap_append, List.getLast?_append, ← lastValue, ← lastValue]
  congr 1
  cases h : c.value? s <;> simp [lastValue, h]

private theorem isOn_concat (s : Switch) :
    isOn (chunks ++ [c]) s = (isOn chunks s || c.turnsOn s) := by
  rw [isOn, List.any_append, ← isOn, List.any_cons, List.any_nil, Bool.or_false]

end Concat

/-- A value that a setting takes is what counts from then on. -/
theorem set_settings (chunks : List Chunk) {s : Setting} {value : String} (h : s.Takes value) :
    s.set value (settings chunks) = .ok (settings (chunks ++ [.setting s value h])) := by
  cases s with
  | timeout =>
    obtain ⟨n, hread⟩ := h
    simp [Setting.set, settings, lastValue_concat, Chunk.value?, hread, Except.toOption]
  | url | user | password => simp [Setting.set, settings, lastValue_concat, Chunk.value?]

/-- One more chunk is read as it is told by the row of chunks up to it. -/
theorem scan_chunk (chunks : List Chunk) (c : Chunk) (rest : List String) :
    scan (seen chunks) (c.arguments ++ rest) = scan (seen (chunks ++ [c])) rest := by
  cases c with
  | word text h =>
    refine (scan_word h _ rest).trans ?_
    simp [seen, settings, flags, words_concat, lastValue_concat, isOn_concat, Chunk.word?,
      Chunk.value?, Chunk.turnsOn]
  | setting s value h =>
    refine (scan_setting (set_settings chunks h) rest).trans ?_
    simp [seen, flags, words_concat, isOn_concat, Chunk.word?, Chunk.turnsOn]
  | switch s =>
    refine (scan_switch s _ rest).trans ?_
    cases s <;>
      simp [Switch.turnOn, seen, settings, flags, words_concat, lastValue_concat, isOn_concat,
        Chunk.word?, Chunk.value?, Chunk.turnsOn]

private theorem scan_arguments (chunks : List Chunk) (rest : List String) :
    scan Seen.empty (arguments chunks ++ rest) = scan (seen chunks) rest := by
  induction chunks using List.reverseRecOn generalizing rest with
  | nil => rfl
  | append_singleton chunks c ih =>
    have harguments : arguments (chunks ++ [c]) = arguments chunks ++ c.arguments := by
      rw [arguments, List.flatMap_append, ← arguments, List.flatMap_singleton]
    rw [harguments, List.append_assoc, ih, scan_chunk]

/-! ### Arguments as a row of chunks -/

/-- Where no further chunk can be read. -/
inductive Stop : List String → Prop
  | ended : Stop []
  | help (help : HelpFlag) (rest : List String) : Stop (help.text :: rest)
  | fault {tail : List String} {e : Error} : Faulty tail e → Stop tail

private theorem stop_or_exists_chunk (args : List String) :
    Stop args ∨ ∃ (c : Chunk) (rest : List String), args = c.arguments ++ rest := by
  cases args with
  | nil => exact .inl .ended
  | cons arg rest =>
    by_cases hsetting : ∃ s : Setting, arg = s.flag
    · obtain ⟨s, rfl⟩ := hsetting
      cases rest with
      | nil => exact .inl (.fault (.missing s))
      | cons value rest =>
        rcases s.takes_or value with htakes | ⟨rfl, fault, hread⟩
        · exact .inr ⟨.setting s value htakes, rest, rfl⟩
        · exact .inl (.fault (.invalid rest hread))
    by_cases hswitch : ∃ s : Switch, arg = s.flag
    · obtain ⟨s, rfl⟩ := hswitch
      exact .inr ⟨.switch s, rest, rfl⟩
    by_cases hhelp : ∃ help : HelpFlag, arg = help.text
    · obtain ⟨help, rfl⟩ := hhelp
      exact .inl (.help help rest)
    by_cases hflag : "--".toList <+: arg.toList
    · exact .inl (.fault (.unknown rest hflag (not_exists.mp hsetting) (not_exists.mp hswitch)
        (not_exists.mp hhelp)))
    · have hword : IsWord arg := ⟨hflag, fun h ↦ hhelp ⟨.short, h⟩⟩
      exact .inr ⟨.word arg hword, rest, rfl⟩

private theorem Chunk.length_arguments_pos (c : Chunk) : 0 < c.arguments.length := by
  cases c <;> exact Nat.succ_pos _

/-- Every list of arguments is a row of chunks up to where no further one can be read. -/
theorem exists_chunks (args : List String) :
    ∃ (chunks : List Chunk) (tail : List String), args = arguments chunks ++ tail ∧ Stop tail := by
  -- A chunk takes one argument or two, so the induction is on how many are left.
  induction hn : args.length using Nat.strongRecOn generalizing args with
  | ind n ih =>
    rcases stop_or_exists_chunk args with hstop | ⟨c, rest, rfl⟩
    · exact ⟨[], args, rfl, hstop⟩
    · have hlt : rest.length < n := by
        have hpos := c.length_arguments_pos
        rw [List.length_append] at hn
        omega
      obtain ⟨chunks, tail, hrest, hstop⟩ := ih rest.length hlt rest rfl
      refine ⟨c :: chunks, tail, ?_, hstop⟩
      rw [hrest, arguments, arguments, List.flatMap_cons, List.append_assoc]

/-! ### Words as a command -/

private theorem ended_eq_ok_iff {command result : Command} {rest : List String} :
    ended command rest = .ok result ↔ rest = [] ∧ result = command := by
  cases rest <;> simp [ended, eq_comm]

private theorem command_eq_ok_iff {flags : Flags} {overrideEvents : Bool} {words : List String}
    {result : Command} :
    command flags overrideEvents words = .ok result ↔
      Spells flags overrideEvents words result := by
  constructor
  · intro h
    unfold command at h
    split at h
    · cases h
      exact .help
    · obtain ⟨rfl, rfl⟩ := ended_eq_ok_iff.mp h
      exact .templates
    · split at h
      · cases h
      · obtain ⟨rfl, rfl⟩ := ended_eq_ok_iff.mp h
        exact .show _
    · split at h
      · cases h
      · cases h
      · obtain ⟨rfl, rfl⟩ := ended_eq_ok_iff.mp h
        exact .apply _ _
    · split at h
      · cases h
        exact .roles
      · obtain ⟨rfl, rfl⟩ := ended_eq_ok_iff.mp h
        exact .search _
    · cases h
  · intro h
    cases h <;> rfl

/-! ### The whole command line -/

section Parse

variable (chunks : List Chunk)

private theorem parse_arguments :
    parse (arguments chunks) =
      (command (flags chunks) (isOn chunks .override) (words chunks)).map fun c ↦
        ⟨c, settings chunks⟩ := by
  have hscan : scan Seen.empty (arguments chunks) = .ok (false, seen chunks) := by
    rw [← List.append_nil (arguments chunks), scan_arguments]
    rfl
  rw [parse, hscan]
  rfl

/-- Behind a request for help nothing is read, nor are the words in front of it. -/
theorem parse_arguments_help (help : HelpFlag) (rest : List String) :
    parse (arguments chunks ++ help.text :: rest) = .ok ⟨.help, settings chunks⟩ := by
  rw [parse, scan_arguments, scan_help]
  rfl

private theorem parse_arguments_faulty {tail : List String} {e : Error} (h : Faulty tail e) :
    parse (arguments chunks ++ tail) = .error e := by
  rw [parse, scan_arguments, scan_faulty h]
  rfl

end Parse

/-- A row of chunks is accepted exactly when its words spell a command; it is then read as this
command, with the switches that occur and the value that each setting is given last. A row of chunks
with a request for help behind it asks for help with the settings up to there. Any other list of
arguments is turned down, for the fault behind its chunks. -/
theorem parse_grammar :
    (∀ (chunks : List Chunk) (i : Invocation),
      parse (arguments chunks) = .ok i ↔
        Spells (flags chunks) (isOn chunks .override) (words chunks) i.command ∧
          i.overrides = settings chunks) ∧
    (∀ (chunks : List Chunk) (help : HelpFlag) (rest : List String),
      parse (arguments chunks ++ help.text :: rest) = .ok ⟨.help, settings chunks⟩) ∧
    ∀ args : List String,
      (∃ chunks, args = arguments chunks) ∨
        (∃ chunks help rest, args = arguments chunks ++ HelpFlag.text help :: rest) ∨
          ∃ chunks tail e,
            args = arguments chunks ++ tail ∧ Faulty tail e ∧ parse args = .error e := by
  refine ⟨fun chunks i ↦ ?_, parse_arguments_help, fun args ↦ ?_⟩
  · rw [parse_arguments, ← command_eq_ok_iff]
    obtain ⟨result, overrides⟩ := i
    cases command (flags chunks) (isOn chunks .override) (words chunks) with
    | error e => simp [Except.map]
    | ok c => simp [Except.map, eq_comm]
  · obtain ⟨chunks, tail, rfl, hstop⟩ := exists_chunks args
    cases hstop with
    | ended => exact .inl ⟨chunks, List.append_nil _⟩
    | help help rest => exact .inr (.inl ⟨chunks, help, rest, rfl⟩)
    | fault hfault =>
      exact .inr (.inr ⟨chunks, tail, _, rfl, hfault, parse_arguments_faulty chunks hfault⟩)

/-- Switches and settings may stand anywhere among the words, and a value is taken as it is. -/
example :
    parse ["--url", "-h", "apply", "--download", "s", "--url", "b", "public"] =
      .ok ⟨.apply "s" "public" ⟨true, false⟩ false, { ConfigLayer.empty with baseUrl := "b" }⟩ := by
  decide

end SeriesAcl.Arguments
