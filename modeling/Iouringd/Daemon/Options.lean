import Mathlib.Data.List.TakeWhile
import Iouringd.Daemon.State

/-! # The command line

`iouringd_parse_args` and the numbers in it, which `strtoul` reads. What the parser takes is a
list of settings in any order, each overriding those before it, and a path; a number may have
blanks and a sign in front, and a negative one wraps around as `strtoul` has it.
-/

namespace Iouringd

open Foundation

/-- An argument without its terminating zero. -/
abbrev Arg := List Char

/-! ## Numbers -/

/-- `isspace` in the C locale. -/
def isSpace (char : Char) : Bool :=
  char == ' ' || (decide (9 ≤ char.toNat) && decide (char.toNat ≤ 13))

/-- The sign `strtoul` accepts in front of the digits. -/
inductive Sign where
  | none | plus | minus
  deriving DecidableEq, Repr

def Sign.text : Sign → Arg
  | .none => []
  | .plus => ['+']
  | .minus => ['-']

def splitSign : Arg → Sign × Arg
  | '+' :: rest => (.plus, rest)
  | '-' :: rest => (.minus, rest)
  | text => (.none, text)

/-- The value of decimal digits. -/
def magnitude (digits : List Char) : Nat :=
  digits.foldl (fun value char => 10 * value + (char.toNat - '0'.toNat)) 0

/-- What `strtoul` returns: the value, where it stopped, whether it got anywhere, and whether
`errno` was left alone. -/
structure StrtoulResult where
  value : Nat
  rest : Arg
  moved : Bool
  inRange : Bool
  deriving DecidableEq, Repr

/-- `strtoul(text, &end, 10)` for a 64-bit `unsigned long`. -/
def strtoul (text : Arg) : StrtoulResult :=
  let signed := splitSign (text.dropWhile isSpace)
  let digits := signed.2.takeWhile Char.isDigit
  if digits.isEmpty then ⟨0, text, false, true⟩
  else if 2 ^ 64 ≤ magnitude digits then
    ⟨2 ^ 64 - 1, signed.2.dropWhile Char.isDigit, true, false⟩
  else
    ⟨if signed.1 = .minus then (2 ^ 64 - magnitude digits) % 2 ^ 64 else magnitude digits,
      signed.2.dropWhile Char.isDigit, true, true⟩

/-- `iouringd_parse_unsigned_arg`. -/
def parseUnsignedArg (value : Arg) : Option UInt32 :=
  if value.isEmpty then none
  else
    let parsed := strtoul value
    if !parsed.inRange || !parsed.moved || !parsed.rest.isEmpty ||
        decide (2 ^ 32 - 1 < parsed.value) then none
    else some (UInt32.ofNat parsed.value)

/-! ## Options -/

/-- The options that take a number. -/
inductive Setting where
  | ringEntries | maxClients | registeredFds | registeredBuffers | perClientCredits | ioBytesMax
  | jobId
  deriving DecidableEq, Repr

def Setting.name : Setting → Arg
  | .ringEntries => "--ring-entries".toList
  | .maxClients => "--max-clients".toList
  | .registeredFds => "--registered-fds".toList
  | .registeredBuffers => "--registered-buffers".toList
  | .perClientCredits => "--per-client-credits".toList
  | .ioBytesMax => "--io-bytes-max".toList
  | .jobId => "--job-id".toList

def traceStderr : Arg := "--trace-stderr".toList

/-- The chain of comparisons in `iouringd_parse_args`. -/
def settingOf (option : Arg) : Option Setting :=
  if option = Setting.ringEntries.name then some .ringEntries
  else if option = Setting.maxClients.name then some .maxClients
  else if option = Setting.registeredFds.name then some .registeredFds
  else if option = Setting.registeredBuffers.name then some .registeredBuffers
  else if option = Setting.perClientCredits.name then some .perClientCredits
  else if option = Setting.ioBytesMax.name then some .ioBytesMax
  else if option = Setting.jobId.name then some .jobId
  else none

/-- What the command line sets. -/
structure Options where
  limits : Limits
  jobId : Option UInt32
  traceToStderr : Bool
  deriving DecidableEq, Repr

def Options.default : Options := ⟨.default, none, false⟩

def Options.set (options : Options) (setting : Setting) (value : UInt32) : Options :=
  match setting with
  | .ringEntries => { options with limits := { options.limits with ringEntries := value.toNat } }
  | .maxClients => { options with limits := { options.limits with maxClients := value.toNat } }
  | .registeredFds =>
      { options with limits := { options.limits with registeredFdsPerClient := value.toNat } }
  | .registeredBuffers =>
      { options with limits := { options.limits with registeredBuffersPerClient := value.toNat } }
  | .perClientCredits =>
      { options with limits := { options.limits with perClientCredits := value.toNat } }
  | .ioBytesMax => { options with limits := { options.limits with ioBytesMax := value.toNat } }
  | .jobId => { options with jobId := some value }

/-- The loop of `iouringd_parse_args` at one argument, with those behind it. It stops at the
last argument, which is the path; the value of an option is never the last. -/
def parseOptions (options : Options) (option : Arg) : List Arg → Option (Options × Arg)
  | [] => some (options, option)
  | value :: rest =>
      if option = traceStderr then parseOptions { options with traceToStderr := true } value rest
      else
        match parseUnsignedArg value with
        | none => none
        | some number =>
            match settingOf option with
            | none => none
            | some setting =>
                match rest with
                | [] => none
                | next :: rest => parseOptions (options.set setting number) next rest

/-- `iouringd_parse_args` on the arguments behind the program's name: the settings and the
socket path, or `EINVAL`. -/
def parseArgs (args : List Arg) : Except Errno (Options × Arg) :=
  match args with
  | [] => .error EINVAL
  | option :: rest =>
      match parseOptions .default option rest with
      | none => .error EINVAL
      | some (options, path) =>
          if options.limits.accepted then .ok (options, path) else .error EINVAL

/-! ## What a number is -/

/-- A number as `strtoul` takes it: blanks, a sign, digits. -/
structure Numeral where
  spaces : List Char
  sign : Sign
  digits : List Char

namespace Numeral

def text (numeral : Numeral) : Arg := numeral.spaces ++ numeral.sign.text ++ numeral.digits

/-- A minus sign takes the number modulo 2^64, the size of an `unsigned long`. -/
def value (numeral : Numeral) : Nat :=
  if numeral.sign = .minus then (2 ^ 64 - magnitude numeral.digits) % 2 ^ 64
  else magnitude numeral.digits

structure WellFormed (numeral : Numeral) : Prop where
  spaces : ∀ char ∈ numeral.spaces, isSpace char = true
  digits : ∀ char ∈ numeral.digits, char.isDigit = true
  some : numeral.digits ≠ []

end Numeral

/-- The text is a number of 32 bits. -/
def Denotes (text : Arg) (number : UInt32) : Prop :=
  ∃ numeral : Numeral, numeral.WellFormed ∧ text = numeral.text ∧
    magnitude numeral.digits < 2 ^ 64 ∧ numeral.value = number.toNat

section Numbers

variable {text : Arg} {number : UInt32}

theorem isDigit_range {char : Char} (digit : char.isDigit = true) :
    48 ≤ char.toNat ∧ char.toNat ≤ 57 := by
  simp only [Char.isDigit, Bool.and_eq_true, decide_eq_true_eq, ge_iff_le, UInt32.le_iff_toNat_le]
    at digit
  exact digit

/-- A digit is neither a blank nor a sign. -/
theorem isDigit_not_special {char : Char} (digit : char.isDigit = true) :
    isSpace char = false ∧ char ≠ '+' ∧ char ≠ '-' := by
  have range := isDigit_range digit
  refine ⟨?_, ?_, ?_⟩
  · rw [isSpace, Bool.or_eq_false_iff, Bool.and_eq_false_iff, decide_eq_false_iff_not,
      decide_eq_false_iff_not]
    refine ⟨?_, Or.inr (by omega)⟩
    rw [beq_eq_false_iff_ne]
    rintro rfl
    exact absurd range (by decide)
  · rintro rfl
    exact absurd range (by decide)
  · rintro rfl
    exact absurd range (by decide)

theorem splitSign_text (text : Arg) : (splitSign text).1.text ++ (splitSign text).2 = text := by
  unfold splitSign
  split
  · rfl
  · rfl
  · rfl

/-- A sign in front of a digit is read as such. -/
theorem splitSign_sign (sign : Sign) {char : Char} {rest : Arg} (digit : char.isDigit = true) :
    splitSign (sign.text ++ char :: rest) = (sign, char :: rest) := by
  obtain ⟨-, plus, minus⟩ := isDigit_not_special digit
  cases sign with
  | none =>
      rw [Sign.text, List.nil_append, splitSign]
      · rintro _ ⟨⟩
        exact plus rfl
      · rintro _ ⟨⟩
        exact minus rfl
  | plus => rfl
  | minus => rfl

/-- Behind blanks a number starts with something else. -/
theorem Numeral.WellFormed.dropWhile {numeral : Numeral} (formed : numeral.WellFormed) :
    numeral.text.dropWhile isSpace = numeral.sign.text ++ numeral.digits := by
  obtain ⟨first, rest, split⟩ := List.exists_cons_of_ne_nil formed.some
  have digit := formed.digits first (by rw [split]; exact List.mem_cons_self)
  rw [Numeral.text, List.append_assoc, List.dropWhile_append_of_pos formed.spaces, split]
  cases numeral.sign with
  | none =>
      refine List.dropWhile_cons_of_neg ?_
      rw [(isDigit_not_special digit).1]
      decide
  | plus => exact List.dropWhile_cons_of_neg (by decide)
  | minus => exact List.dropWhile_cons_of_neg (by decide)

/-- `strtoul` reads a number to its end. -/
theorem strtoul_text {numeral : Numeral} (formed : numeral.WellFormed)
    (small : magnitude numeral.digits < 2 ^ 64) :
    strtoul numeral.text = ⟨numeral.value, [], true, true⟩ := by
  obtain ⟨first, rest, split⟩ := List.exists_cons_of_ne_nil formed.some
  have digit := formed.digits first (by rw [split]; exact List.mem_cons_self)
  have signed : splitSign (numeral.text.dropWhile isSpace) = (numeral.sign, numeral.digits) := by
    rw [formed.dropWhile, split]
    exact splitSign_sign numeral.sign digit
  have taken : numeral.digits.takeWhile Char.isDigit = numeral.digits :=
    List.takeWhile_eq_self_iff.mpr formed.digits
  have left : numeral.digits.dropWhile Char.isDigit = [] :=
    List.dropWhile_eq_nil_iff.mpr formed.digits
  have some : ¬ numeral.digits.isEmpty = true := by
    rw [List.isEmpty_iff]
    exact formed.some
  unfold strtoul
  simp only [signed, taken, left, if_neg some, if_neg (Nat.not_le.mpr small)]
  rfl

/-- What `strtoul` read to the end is a number. -/
theorem strtoul_numeral (moved : (strtoul text).moved = true)
    (inRange : (strtoul text).inRange = true) (ended : (strtoul text).rest = []) :
    ∃ numeral : Numeral, numeral.WellFormed ∧ text = numeral.text ∧
      magnitude numeral.digits < 2 ^ 64 ∧ (strtoul text).value = numeral.value := by
  unfold strtoul at moved inRange ended ⊢
  dsimp only at moved inRange ended ⊢
  generalize signed : splitSign (text.dropWhile isSpace) = split at *
  split at moved
  · cases moved
  · rename_i some
    rw [if_neg some] at inRange ended ⊢
    split at inRange
    · cases inRange
    · rename_i small
      rw [if_neg small] at ended ⊢
      have whole : split.2.takeWhile Char.isDigit = split.2 := by
        have parts := @List.takeWhile_append_dropWhile _ Char.isDigit split.2
        rwa [show split.2.dropWhile Char.isDigit = [] from ended, List.append_nil] at parts
      refine ⟨⟨text.takeWhile isSpace, split.1, split.2⟩, ⟨?_, ?_, ?_⟩, ?_, ?_, ?_⟩
      · exact List.all_eq_true.mp List.all_takeWhile
      · exact List.takeWhile_eq_self_iff.mp whole
      · rw [whole, List.isEmpty_iff] at some
        exact some
      · have behind := splitSign_text (text.dropWhile isSpace)
        rw [signed] at behind
        rw [Numeral.text, List.append_assoc, behind]
        exact List.takeWhile_append_dropWhile.symm
      · rw [whole] at small
        exact Nat.not_le.mp small
      · rw [whole]
        rfl

/-- The numbers the command line accepts. -/
theorem parseUnsignedArg_iff : parseUnsignedArg text = some number ↔ Denotes text number := by
  have bounded := number.toNat_lt
  constructor
  · intro parsed
    unfold parseUnsignedArg at parsed
    split at parsed
    · cases parsed
    · dsimp only at parsed
      split at parsed
      · cases parsed
      · rename_i good
        cases parsed
        simp only [Bool.or_eq_true, Bool.not_eq_true', not_or, Bool.not_eq_false,
          decide_eq_true_eq, List.isEmpty_iff] at good
        obtain ⟨⟨⟨inRange, moved⟩, ended⟩, small⟩ := good
        obtain ⟨numeral, formed, spelled, below, same⟩ := strtoul_numeral moved inRange ended
        refine ⟨numeral, formed, spelled, below, ?_⟩
        rw [same, UInt32.toNat_ofNat', Nat.mod_eq_of_lt (by omega)]
  · rintro ⟨numeral, formed, rfl, below, same⟩
    have some : ¬ numeral.text.isEmpty = true := by
      rw [List.isEmpty_iff, Numeral.text, List.append_eq_nil_iff]
      exact fun none => formed.some none.2
    unfold parseUnsignedArg
    rw [if_neg some, strtoul_text formed below]
    dsimp only
    rw [if_neg ?_, same, UInt32.ofNat_toNat]
    simp only [Bool.not_true, List.isEmpty_nil, Bool.or_false, Bool.false_or, decide_eq_true_eq,
      same]
    omega

end Numbers

/-! ## What a command line is -/

/-- One option on the command line. -/
inductive Update where
  | trace
  | set (setting : Setting) (value : UInt32)

def Update.apply (options : Options) : Update → Options
  | .trace => { options with traceToStderr := true }
  | .set setting value => options.set setting value

/-- The arguments that spell an option. -/
inductive Update.Spells : Update → List Arg → Prop
  | trace : Spells .trace [traceStderr]
  | set (setting : Setting) {text : Arg} {value : UInt32} (denotes : Denotes text value) :
      Spells (.set setting value) [setting.name, text]

/-- The arguments behind the program's name: options, and the path. -/
def Spelled (updates : List Update) (path : Arg) (args : List Arg) : Prop :=
  ∃ words, List.Forall₂ Update.Spells updates words ∧ args = words.flatten ++ [path]

section CommandLine

variable {options final : Options} {option path : Arg} {rest : List Arg}

theorem settingOf_iff {setting : Setting} :
    settingOf option = some setting ↔ option = setting.name := by
  constructor
  · intro found
    unfold settingOf at found
    split at found
    · cases found
      assumption
    · split at found
      · cases found
        assumption
      · split at found
        · cases found
          assumption
        · split at found
          · cases found
            assumption
          · split at found
            · cases found
              assumption
            · split at found
              · cases found
                assumption
              · split at found
                · cases found
                  assumption
                · cases found
  · rintro rfl
    cases setting with
    | _ => decide

theorem Setting.name_ne_trace (setting : Setting) : setting.name ≠ traceStderr := by
  cases setting with
  | _ => decide

theorem Spelled.cons {updates : List Update} {update : Update} {word args : List Arg}
    (spells : update.Spells word) (spelled : Spelled updates path args) :
    Spelled (update :: updates) path (word ++ args) := by
  obtain ⟨words, each, same⟩ := spelled
  refine ⟨word :: words, .cons spells each, ?_⟩
  rw [same, List.flatten_cons, List.append_assoc]

/-- What the loop takes is spelled out. -/
theorem parseOptions_spelled (parsed : parseOptions options option rest = some (final, path)) :
    ∃ updates, Spelled updates path (option :: rest) ∧
      final = updates.foldl Update.apply options := by
  induction options, option, rest using parseOptions.induct with
  | case1 options option =>
      cases parsed
      exact ⟨[], ⟨[], .nil, rfl⟩, rfl⟩
  | case2 options value rest ih =>
      rw [parseOptions, if_pos rfl] at parsed
      obtain ⟨updates, spelled, same⟩ := ih parsed
      exact ⟨.trace :: updates, spelled.cons .trace, same⟩
  | case3 options option value rest other unread =>
      rw [parseOptions, if_neg other, unread] at parsed
      cases parsed
  | case4 options option value rest other number read unknown =>
      rw [parseOptions, if_neg other, read] at parsed
      dsimp only at parsed
      rw [unknown] at parsed
      cases parsed
  | case5 options option value other number read setting known =>
      rw [parseOptions, if_neg other, read] at parsed
      dsimp only at parsed
      rw [known] at parsed
      cases parsed
  | case6 options option value other number read setting known next rest ih =>
      rw [parseOptions, if_neg other, read] at parsed
      dsimp only at parsed
      rw [known] at parsed
      obtain ⟨updates, spelled, same⟩ := ih parsed
      refine ⟨.set setting number :: updates, ?_, same⟩
      rw [settingOf_iff.mp known]
      exact spelled.cons (.set setting (parseUnsignedArg_iff.mp read))

/-- What is spelled out the loop takes. -/
theorem parseOptions_of_spelled {updates : List Update}
    (spelled : Spelled updates path (option :: rest)) :
    parseOptions options option rest = some (updates.foldl Update.apply options, path) := by
  obtain ⟨words, each, same⟩ := spelled
  induction each generalizing options option rest with
  | nil =>
      obtain ⟨rfl, rfl⟩ := List.cons.inj same
      rfl
  | @cons update word updates words spells each ih =>
      rw [List.flatten_cons, List.append_assoc] at same
      obtain ⟨next, more, split⟩ := List.exists_cons_of_ne_nil
        (List.append_ne_nil_of_right_ne_nil words.flatten (List.cons_ne_nil path []))
      rw [split] at same
      cases spells with
      | trace =>
          rw [List.singleton_append] at same
          obtain ⟨rfl, rfl⟩ := List.cons.inj same
          rw [parseOptions, if_pos rfl]
          exact ih split.symm
      | set setting denotes =>
          rw [List.cons_append, List.singleton_append] at same
          obtain ⟨rfl, rfl⟩ := List.cons.inj same
          rw [parseOptions, if_neg setting.name_ne_trace, parseUnsignedArg_iff.mpr denotes]
          dsimp only
          rw [settingOf_iff.mpr rfl]
          exact ih split.symm

/-- What is parsed passed the check of the ranges. -/
theorem parseArgs_accepted {args : List Arg} (parsed : parseArgs args = .ok (final, path)) :
    final.limits.accepted = true := by
  unfold parseArgs at parsed
  split at parsed
  · cases parsed
  · split at parsed
    · cases parsed
    · split at parsed
      · rename_i accepted
        cases parsed
        exact accepted
      · cases parsed

/-- A command line that spells out accepted options is parsed. -/
theorem parseArgs_of_spelled {updates : List Update} {args : List Arg}
    (spelled : Spelled updates path args)
    (accepted : (updates.foldl Update.apply Options.default).limits.accepted = true) :
    parseArgs args = .ok (updates.foldl Update.apply .default, path) := by
  cases args with
  | nil =>
      obtain ⟨words, -, same⟩ := spelled
      exact absurd same.symm (List.append_ne_nil_of_right_ne_nil _ (List.cons_ne_nil path []))
  | cons option rest =>
      unfold parseArgs
      dsimp only
      rw [parseOptions_of_spelled spelled]
      exact if_pos accepted

/-- The command lines the daemon starts with are those that spell out options and a path, and
whose settings pass the check of the ranges when each option overrides those before it. -/
theorem parseArgs_iff {args : List Arg} :
    parseArgs args = .ok (final, path) ↔ ∃ updates, Spelled updates path args ∧
      final = updates.foldl Update.apply .default ∧ final.limits.accepted = true := by
  constructor
  · intro parsed
    cases args with
    | nil => cases parsed
    | cons option rest =>
        unfold parseArgs at parsed
        dsimp only at parsed
        cases looped : parseOptions .default option rest with
        | none =>
            rw [looped] at parsed
            cases parsed
        | some found =>
            rw [looped] at parsed
            dsimp only at parsed
            split at parsed
            · rename_i accepted
              cases parsed
              obtain ⟨updates, spelled, same⟩ := parseOptions_spelled looped
              exact ⟨updates, spelled, same, accepted⟩
            · cases parsed
  · rintro ⟨updates, spelled, rfl, accepted⟩
    exact parseArgs_of_spelled spelled accepted

end CommandLine

/-! ## Writing a command line -/

/-- A number in decimal. -/
def decimal (number : Nat) : Arg := Nat.toDigits 10 number

/-- Options as a command line. -/
def Options.updates (options : Options) : List Update :=
  [.set .ringEntries (UInt32.ofNat options.limits.ringEntries),
    .set .maxClients (UInt32.ofNat options.limits.maxClients),
    .set .registeredFds (UInt32.ofNat options.limits.registeredFdsPerClient),
    .set .registeredBuffers (UInt32.ofNat options.limits.registeredBuffersPerClient),
    .set .perClientCredits (UInt32.ofNat options.limits.perClientCredits),
    .set .ioBytesMax (UInt32.ofNat options.limits.ioBytesMax)] ++
    (options.jobId.map (Update.set .jobId)).toList ++
    (if options.traceToStderr then [.trace] else [])

def Update.words : Update → List Arg
  | .trace => [traceStderr]
  | .set setting value => [setting.name, decimal value.toNat]

def Options.commandLine (options : Options) (path : Arg) : List Arg :=
  (options.updates.map Update.words).flatten ++ [path]

section Writing

theorem denotes_decimal (number : UInt32) : Denotes (decimal number.toNat) number := by
  have bounded := number.toNat_lt
  have same : magnitude (decimal number.toNat) = number.toNat := by
    have value := @Nat.ofDigitChars_toDigits 10 number.toNat (by decide) (by decide)
    rwa [Nat.ofDigitChars_eq_foldl] at value
  refine ⟨⟨[], .none, decimal number.toNat⟩, ⟨?_, ?_, Nat.toDigits_ne_nil⟩, rfl, ?_, same⟩
  · exact List.forall_mem_nil _
  · intro char member
    exact Nat.isDigit_of_mem_toDigits (by decide) (by decide) member
  · change magnitude (decimal number.toNat) < 2 ^ 64
    omega

theorem Update.spells_words (update : Update) : update.Spells update.words := by
  cases update with
  | trace => exact .trace
  | set setting value => exact .set setting (denotes_decimal value)

/-- Limits within their ranges are numbers of 32 bits. -/
theorem Limits.accepted_small {limits : Limits} (accepted : limits.accepted = true) :
    limits.maxClients < 2 ^ 32 ∧ limits.registeredFdsPerClient < 2 ^ 32 ∧
      limits.registeredBuffersPerClient < 2 ^ 32 ∧ limits.perClientCredits < 2 ^ 32 ∧
      limits.ioBytesMax < 2 ^ 32 ∧ limits.ringEntries < 2 ^ 32 := by
  unfold Limits.accepted at accepted
  simp only [Bool.not_eq_true', Bool.or_eq_false_iff, decide_eq_false_iff_not, Nat.not_lt]
    at accepted
  obtain ⟨⟨⟨⟨⟨⟨⟨⟨⟨⟨⟨-, entries⟩, -⟩, clients⟩, -⟩, files⟩, -⟩, buffers⟩, -⟩, credits⟩, -⟩, bytes⟩ :=
    accepted
  have within : ∀ {number bound : Nat}, number ≤ bound → bound < 2 ^ 32 → number < 2 ^ 32 :=
    Nat.lt_of_le_of_lt
  exact ⟨within clients (by decide), within files (by decide), within buffers (by decide),
    within credits (by decide), within bytes (by decide), within entries (by decide)⟩

theorem Options.updates_apply {options : Options} (accepted : options.limits.accepted = true) :
    options.updates.foldl Update.apply .default = options := by
  obtain ⟨clients, files, buffers, credits, bytes, entries⟩ := Limits.accepted_small accepted
  have numbers : ∀ {number : Nat}, number < 2 ^ 32 → (UInt32.ofNat number).toNat = number := by
    intro number small
    rw [UInt32.toNat_ofNat', Nat.mod_eq_of_lt small]
  obtain ⟨⟨maxClients, registeredFds, registeredBuffers, perClientCredits, ioBytesMax, ringEntries⟩,
    jobId, trace⟩ := options
  have base : (([.set .ringEntries (UInt32.ofNat ringEntries),
      .set .maxClients (UInt32.ofNat maxClients),
      .set .registeredFds (UInt32.ofNat registeredFds),
      .set .registeredBuffers (UInt32.ofNat registeredBuffers),
      .set .perClientCredits (UInt32.ofNat perClientCredits),
      .set .ioBytesMax (UInt32.ofNat ioBytesMax)] : List Update).foldl Update.apply .default) =
      ⟨⟨maxClients, registeredFds, registeredBuffers, perClientCredits, ioBytesMax, ringEntries⟩,
        none, false⟩ := by
    simp only [List.foldl_cons, List.foldl_nil, Update.apply, Options.set, numbers clients,
      numbers files, numbers buffers, numbers credits, numbers bytes, numbers entries]
    rfl
  rw [Options.updates, List.foldl_append, List.foldl_append, base]
  cases jobId with
  | none =>
      cases trace with
      | false => rfl
      | true => rfl
  | some id =>
      cases trace with
      | false => rfl
      | true => rfl

/-- Options that are written out are parsed back. -/
theorem parseArgs_commandLine {options : Options} (accepted : options.limits.accepted = true)
    (path : Arg) : parseArgs (options.commandLine path) = .ok (options, path) := by
  have spelled : Spelled options.updates path (options.commandLine path) := by
    refine ⟨options.updates.map Update.words, ?_, rfl⟩
    rw [List.forall₂_map_right_iff, List.forall₂_same]
    intro update _
    exact update.spells_words
  have same := Options.updates_apply accepted
  rw [parseArgs_of_spelled spelled (by rw [same]; exact accepted), same]

end Writing

example : parseArgs ["--max-clients".toList, " -18446744073709551614".toList, "/s".toList] =
    .ok (Options.default.set .maxClients 2, "/s".toList) := by decide

end Iouringd
