import Mathlib.Data.List.TakeWhile
import RegexSubst.CommandLine.Spelling
import RegexSubst.Proofs.Template.Decoding
import RegexSubst.Proofs.Text.Integer

/-!
# `RegexSubst.Proofs.CommandLine.RoundTrip`: settings are read from their command line

Behind the separator every argument is positional, whatever it looks like. In front of it every
argument is classified on its own, and the decimal form of an integer is positional there as well,
although it may begin with a dash.

* `ArgumentKind.ofText_ofInt`, `ArgumentKind.ofText_attached` and `classify_arguments`: the
  arguments of an option are classified as they are meant, in front of any others.
* `readArguments_choice` is the reading of one option, and `readArguments_choices` of several.
* `readArguments_separated` is the reading from the separator on.
* `parse_commandLine`: a command line is read as the settings that it was written for.
-/

set_option autoImplicit false

namespace RegexSubst.CommandLine

open RegexSubst.Template (except_bind_ok except_pure)

/-! ### What the arguments are -/

/-- A digit is no dash. -/
theorem ne_dash_of_isDigit {d : CodePoint} (hd : d.isDigit = true) : d ≠ CodePoint.ofChar '-' := by
  rintro rfl
  cases hd

/-- A digit is no letter of an option. -/
theorem Switch.letter_ne_of_isDigit (s : Switch) {d : CodePoint} (hd : d.isDigit = true) :
    s.letter ≠ d := by
  rintro rfl
  cases s <;> cases hd

/-- No option has a digit behind its first dash. -/
theorem Switch.ofName?_of_isDigit {d : CodePoint} (hd : d.isDigit = true) (rest : Text) :
    Switch.ofName? (CodePoint.ofChar '-' :: d :: rest) = none := by
  refine List.find?_eq_none.mpr fun s _ => ?_
  have hshort : s.short ≠ CodePoint.ofChar '-' :: d :: rest := by
    intro h
    have hletter : s.letter = d := (List.cons.inj (List.cons.inj h).2).1
    exact s.letter_ne_of_isDigit hd hletter
  -- A long name has a second dash where the digit is.
  have hlong : s.long ≠ CodePoint.ofChar '-' :: d :: rest := by
    intro h
    have hdash : CodePoint.ofChar '-' = d := by
      cases s <;> exact (List.cons.inj (List.cons.inj h).2).1
    exact ne_dash_of_isDigit hd hdash.symm
  simp [hshort, hlong]

/-- No name of an option holds an equals sign. -/
theorem Switch.ofName?_of_mem {name : Text} (h : CodePoint.ofChar '=' ∈ name) :
    Switch.ofName? name = none := by
  refine List.find?_eq_none.mpr fun s _ => ?_
  have hshort : s.short ≠ name := by
    rintro rfl
    revert h
    cases s <;> decide
  have hlong : s.long ≠ name := by
    rintro rfl
    revert h
    cases s <;> decide
  simp [hshort, hlong]

/-- The digits `0` to `9` are digits of a script. -/
theorem isDecimal_of_isDigit {d : CodePoint} (hd : d.isDigit = true) : isDecimal d = true := by
  simp only [CodePoint.isDigit, Bool.and_eq_true, decide_eq_true_eq] at hd
  have hleast : ¬ d.val < 0x30 := by omega
  have hbelow : d.val < 0x30 + 10 := by omega
  simp only [isDecimal, Unicode.decimalDigit?, Unicode.decimalZeros, Unicode.digitAfter?,
    if_neg hleast, if_pos hbelow, Option.isSome_some]

/-- A minus sign and digits are a negative number. -/
theorem isNegativeNumber_of_isDigit {d : CodePoint} {rest : Text}
    (h : ∀ c ∈ d :: rest, c.isDigit = true) :
    isNegativeNumber (CodePoint.ofChar '-' :: d :: rest) = true := by
  -- A line end at the end would be overlooked, but the last code point is a digit.
  have hlast : (CodePoint.ofChar '-' :: d :: rest).getLast? ≠ some Text.lineFeed := by
    intro hfeed
    rw [List.getLast?_cons_cons] at hfeed
    have hdigit := h _ (List.mem_of_getLast? hfeed)
    cases hdigit
  have hdecimal : ∀ c ∈ d :: rest, isDecimal c = true := fun c hc => isDecimal_of_isDigit (h c hc)
  simp only [isNegativeNumber, if_neg hlast, List.takeWhile_eq_self_iff.mpr hdecimal,
    List.dropWhile_eq_nil_iff.mpr hdecimal, decide_true, List.isEmpty_cons, Bool.not_false,
    Bool.and_self]

/-- A negative number is a positional argument, since no option looks like one. -/
theorem ArgumentKind.ofText_negative {d : CodePoint} {digits : Text}
    (h : ∀ c ∈ d :: digits, c.isDigit = true) :
    ofText (CodePoint.ofChar '-' :: d :: digits) = .ok .positional := by
  have hd : d.isDigit = true := h d (List.mem_cons_self ..)
  have hequals : ∀ c ∈ CodePoint.ofChar '-' :: d :: digits, c ≠ CodePoint.ofChar '=' := by
    intro c hc
    rcases List.mem_cons.mp hc with rfl | hc
    · decide
    · rintro rfl
      exact absurd (h _ hc) (by decide)
  have hsplit : splitEquals? (CodePoint.ofChar '-' :: d :: digits) = none := by
    rw [splitEquals?, List.dropWhile_eq_nil_iff.mpr (by simpa using hequals)]
  -- It is no abbreviation either: neither of a long name nor of letters.
  have hcandidates : candidates (CodePoint.ofChar '-' :: d :: digits) = [] := by
    simp [candidates, ne_dash_of_isDigit hd, Switch.letter_ne_of_isDigit _ hd]
  rw [ofText, if_neg (by simp), Switch.ofName?_of_isDigit hd]
  simp [hsplit, kindOfDashed, hcandidates, isNegativeNumber_of_isDigit h]

/-- The decimal form of an integer is a positional argument. -/
theorem ArgumentKind.ofText_ofInt (n : Int) : ofText (Text.ofInt n) = .ok .positional := by
  obtain ⟨d, digits, hdigits, hform⟩ := Text.exists_ofInt_eq n
  rcases hform with hform | hform
  · -- Without a sign the text begins with a digit, so it is positional at once.
    have hdash : d ≠ CodePoint.ofChar '-' := ne_dash_of_isDigit (hdigits d (List.mem_cons_self ..))
    rw [hform, ofText, if_pos (by simpa using hdash)]
  · rw [hform, ofText_negative hdigits]

/-- A long name with a value behind an equals sign. -/
theorem ArgumentKind.ofText_attached (value : Text) :
    ofText (Switch.count.long ++ "=" ++ value) = .ok (.switch .count true (some value)) := by
  -- The whole argument is no name, but what stands before the equals sign is one.
  have hname : Switch.ofName? (Switch.count.long ++ "=" ++ value) = none :=
    Switch.ofName?_of_mem (by simp [Text.ofString])
  have hsplit : splitEquals? (Switch.count.long ++ "=" ++ value)
      = some (Switch.count.long, value) := rfl
  have hhead : (Switch.count.long ++ "=" ++ value).head? = some (CodePoint.ofChar '-') := rfl
  have hlength : ¬ (Switch.count.long ++ "=" ++ value).length = 1 := by
    simp [Switch.long, Text.ofString]
  have hcount : Switch.ofName? Switch.count.long = some .count := rfl
  rw [ofText, if_neg (not_not_intro hhead), hname]
  simp only [if_neg hlength, hsplit, hcount]
  rfl

/-- The arguments of an option, classified as they are meant. -/
def Choice.classified : Choice → List Argument
  | .toggle t false => [⟨t.switch.short, .switch t.switch false none⟩]
  | .toggle t true => [⟨t.switch.long, .switch t.switch true none⟩]
  | .count n _ .short =>
    [⟨Switch.count.short, .switch .count false none⟩, ⟨Text.ofInt n, .positional⟩]
  | .count n _ .long =>
    [⟨Switch.count.long, .switch .count true none⟩, ⟨Text.ofInt n, .positional⟩]
  | .count n _ .attached =>
    [⟨Switch.count.long ++ "=" ++ Text.ofInt n, .switch .count true (some (Text.ofInt n))⟩]

/-- An argument that is not the separator is classified on its own. -/
theorem classify_cons {text : Text} {kind : ArgumentKind} {rest : List Text}
    {others : List Argument} (hne : text ≠ separator) (hkind : ArgumentKind.ofText text = .ok kind)
    (hrest : classify rest = .ok others) :
    classify (text :: rest) = .ok (⟨text, kind⟩ :: others) := by
  simp only [classify, if_neg hne, hkind, hrest, except_bind_ok, except_pure]

/-- The decimal form of an integer is not the separator. -/
theorem ofInt_ne_separator (n : Int) : Text.ofInt n ≠ separator := by
  obtain ⟨d, digits, hdigits, hform⟩ := Text.exists_ofInt_eq n
  have hdash : d ≠ CodePoint.ofChar '-' := ne_dash_of_isDigit (hdigits d (List.mem_cons_self ..))
  intro h
  rw [h] at hform
  -- The first or the second dash would be a digit.
  rcases hform with hform | hform
  · exact hdash (List.cons.inj hform).1.symm
  · exact hdash (List.cons.inj (List.cons.inj hform).2).1.symm

/-- The arguments of an option are classified as they are meant. -/
theorem classify_arguments (choice : Choice) {rest : List Text} {others : List Argument}
    (hrest : classify rest = .ok others) :
    classify (choice.arguments ++ rest) = .ok (choice.classified ++ others) := by
  cases choice with
  | toggle t isLong =>
    cases t <;> cases isLong <;> exact classify_cons (by decide) rfl hrest
  | count n readable form =>
    -- The short and the long form have the number in an argument of its own.
    have hnumber : classify (Text.ofInt n :: rest) = .ok (⟨Text.ofInt n, .positional⟩ :: others) :=
      classify_cons (ofInt_ne_separator n) (ArgumentKind.ofText_ofInt n) hrest
    cases form with
    | short => exact classify_cons (by decide) rfl hnumber
    | long => exact classify_cons (by decide) rfl hnumber
    | attached =>
      have hne : Switch.count.long ++ "=" ++ Text.ofInt n ≠ separator := by
        intro h
        have hlength := congrArg List.length h
        simp [Switch.long, separator, Text.ofString] at hlength
      exact classify_cons hne (ArgumentKind.ofText_attached _) hrest

/-- The separator and positional arguments. -/
def separated (texts : List Text) : List Argument :=
  ⟨separator, .separator⟩ :: texts.map (⟨·, .positional⟩)

/-- Behind the separator all arguments are positional. -/
theorem classify_separator (texts : List Text) :
    classify (separator :: texts) = .ok (separated texts) :=
  if_pos rfl

/-- The classification of a whole command line. -/
theorem classify_commandLine (choices : List Choice) (pattern replacement : Text)
    (files : List Text) :
    classify (commandLine choices pattern replacement files)
      = .ok (choices.flatMap Choice.classified
          ++ separated (pattern :: replacement :: files)) := by
  induction choices with
  | nil => exact classify_separator _
  | cons choice choices ih =>
    rw [commandLine, List.flatMap_cons, List.flatMap_cons, List.append_assoc, List.append_assoc]
    exact classify_arguments choice ih

/-! ### What the options do -/

/-- The settings after an option. -/
def Settings.choose (s : Settings) : Choice → Settings
  | .toggle .ignoreCase _ => { s with ignoreCase := true }
  | .toggle .multiline _ => { s with multiline := true }
  | .toggle .dotAll _ => { s with dotAll := true }
  | .toggle .verbose _ => { s with verbose := true }
  | .count n _ _ => { s with count := some n }

/-- The count in the decimal form of an integer. -/
theorem countOf_ofInt {n : Int} (h : (Text.ofNat n.natAbs).length ≤ Numeral.digitLimit) :
    countOf (Text.ofInt n) = .ok (some n) := by
  rw [countOf, if_neg (ofInt_ne_separator n), Numeral.readInt_ofInt h]

/-- The use of a count sets it. -/
theorem applyAll_count (s : Settings) {n : Int}
    (h : (Text.ofNat n.natAbs).length ≤ Numeral.digitLimit) :
    applyAll s [⟨.count, some (Text.ofInt n)⟩] = .ok { s with count := some n } := by
  simp only [applyAll, Settings.apply, Option.getD_some, countOf_ofInt h, except_bind_ok,
    except_pure]

/-- A count whose number is the next argument. -/
theorem usesOf_count (isLong : Bool) (value : Text) (rest : List Argument) :
    usesOf .count isLong none (⟨value, .positional⟩ :: rest).head?
      = .ok ([⟨.count, some value⟩], true) :=
  rfl

/-- A count whose number is attached. -/
theorem usesOf_count_attached (value : Text) (next : Option Argument) :
    usesOf .count true (some value) next = .ok ([⟨.count, some value⟩], false) := by
  cases value <;> rfl

/-- One round reads an option with its value. -/
theorem readArguments_choice (choice : Choice) (rounds : Nat) (progress : Progress)
    (rest : List Argument) :
    readArguments (rounds + 1) progress (choice.classified ++ rest)
      = readArguments rounds
          { progress with settings := progress.settings.choose choice } rest := by
  cases choice with
  | toggle t isLong => cases t <;> cases isLong <;> rfl
  | count n readable form =>
    have happly := applyAll_count progress.settings readable
    cases form with
    | short =>
      simp only [Choice.classified, List.cons_append, List.nil_append, readArguments,
        usesOf_count, happly, except_bind_ok]
      rfl
    | long =>
      simp only [Choice.classified, List.cons_append, List.nil_append, readArguments,
        usesOf_count, happly, except_bind_ok]
      rfl
    | attached =>
      simp only [Choice.classified, List.cons_append, List.nil_append, readArguments,
        usesOf_count_attached, happly, except_bind_ok]
      rfl

/-- The rounds that read options. -/
theorem readArguments_choices (choices : List Choice) (rounds : Nat) (progress : Progress)
    (rest : List Argument) :
    readArguments (choices.length + rounds) progress (choices.flatMap Choice.classified ++ rest)
      = readArguments rounds
          { progress with settings := choices.foldl Settings.choose progress.settings } rest := by
  induction choices generalizing progress with
  | nil => rw [List.length_nil, Nat.zero_add]; rfl
  | cons choice choices ih =>
    rw [List.flatMap_cons, List.append_assoc, List.length_cons, Nat.add_right_comm,
      readArguments_choice, ih]
    rfl

/-- The settings after some options: a toggle is on if it was on or is given, and the count is the
last one that is given. -/
theorem Settings.foldl_choose (choices : List Choice) (s : Settings) :
    choices.foldl choose s =
      { s with
        ignoreCase := s.ignoreCase || choices.any (Choice.turnsOn .ignoreCase)
        multiline := s.multiline || choices.any (Choice.turnsOn .multiline)
        dotAll := s.dotAll || choices.any (Choice.turnsOn .dotAll)
        verbose := s.verbose || choices.any (Choice.turnsOn .verbose)
        count := (choices.filterMap Choice.count?).getLast?.elim s.count some } := by
  induction choices generalizing s with
  | nil => simp
  | cons choice choices ih =>
    rw [List.foldl_cons, ih]
    cases choice with
    | toggle t isLong => cases t <;> simp [choose, Choice.turnsOn, Choice.count?]
    | count n readable form =>
      -- A count given later wins over the one given here.
      cases hlast : (choices.filterMap Choice.count?).getLast? <;>
        simp [choose, Choice.turnsOn, Choice.count?, hlast, List.getLast?_cons]

/-! ### What the positional arguments do -/

/-- The group of the pattern begins with the separator, which it loses. -/
theorem fill_pattern (s : Settings) (pattern : Text) :
    s.fill .pattern [separator, pattern] = { s with pattern := some pattern } := by
  simp [Settings.fill]

/-- An argument that is not the separator is its own group. -/
theorem fill_replacement (s : Settings) {replacement : Text} (h : replacement ≠ separator) :
    s.fill .replacement [replacement] = { s with replacement := some replacement } := by
  simp [Settings.fill, h]

/-- The files lose nothing if the separator is not among them. -/
theorem fill_files (s : Settings) {files : List Text} (h : separator ∉ files) :
    s.fill .files files = { s with files } := by
  simp [Settings.fill, List.erase_of_not_mem h]

/-- What the separator and positional arguments are handed out to. -/
theorem handOut_separated (s : Settings) (pattern : Text) {replacement : Text}
    {files : List Text} (hreplacement : replacement ≠ separator) (hfiles : separator ∉ files) :
    handOut s (separated (pattern :: replacement :: files)) [.pattern, .replacement, .files]
      = (({ s with pattern := some pattern, replacement := some replacement, files }, []), []) := by
  -- The pattern takes the separator with it, the replacement takes one argument.
  have hfirst : singleGroup? (separated (pattern :: replacement :: files))
      = some ([⟨separator, .separator⟩, ⟨pattern, .positional⟩],
        ⟨replacement, .positional⟩ :: files.map (⟨·, .positional⟩)) := rfl
  have hsecond : singleGroup? (⟨replacement, .positional⟩ :: files.map (⟨·, .positional⟩))
      = some ([⟨replacement, .positional⟩], files.map (⟨·, .positional⟩)) := by
    cases files <;> rfl
  -- The files are all that is left.
  have hordinary : ∀ a ∈ files.map (⟨·, .positional⟩), Argument.isOrdinary a = true := by
    intro a ha
    obtain ⟨text, -, rfl⟩ := List.mem_map.mp ha
    rfl
  have htexts : (files.map fun text => (⟨text, .positional⟩ : Argument)).map (·.text) = files := by
    rw [List.map_map]
    exact List.map_id _
  simp only [handOut, hfirst, hsecond, List.map_cons, List.map_nil, fill_pattern,
    fill_replacement _ hreplacement, List.takeWhile_eq_self_iff.mpr hordinary,
    List.dropWhile_eq_nil_iff.mpr hordinary, htexts, fill_files _ hfiles]

/-- The separator and what follows it are read in one round. -/
theorem readArguments_separated (rounds : Nat) (s : Settings) (pattern : Text)
    {replacement : Text} {files : List Text} (hreplacement : replacement ≠ separator)
    (hfiles : separator ∉ files) :
    readArguments (rounds + 1) ⟨s, [.pattern, .replacement, .files], []⟩
        (separated (pattern :: replacement :: files))
      = .ok ⟨{ s with pattern := some pattern, replacement := some replacement, files },
          [], []⟩ := by
  have hhand := handOut_separated s pattern hreplacement hfiles
  rw [separated] at hhand ⊢
  simp only [readArguments, hhand, List.length_nil, List.length_cons, Nat.zero_lt_succ, if_true]
  cases rounds <;> rfl

/-! ### The round trip -/

/-- Every option is read from at least one argument. -/
theorem length_le_flatMap_classified (choices : List Choice) :
    choices.length ≤ (choices.flatMap Choice.classified).length := by
  induction choices with
  | nil => exact Nat.le_refl _
  | cons choice choices ih =>
    have hpos : 1 ≤ choice.classified.length := by
      cases choice with
      | toggle t isLong => cases isLong <;> exact Nat.le_refl _
      | count n readable form => cases form <;> simp [Choice.classified]
    rw [List.flatMap_cons, List.length_append, List.length_cons]
    omega

/-- A command line is read as the settings that it was written for: the options may come in any
order and any number of times, and behind the separator the pattern, the replacement and the files
may look like options. -/
theorem parse_commandLine (choices : List Choice) (pattern replacement : Text)
    (files : List Text) (hreplacement : replacement ≠ separator) (hfiles : separator ∉ files) :
    parse (commandLine choices pattern replacement files)
      = .ok (chosenSettings choices pattern replacement files) := by
  have hsettings : { choices.foldl Settings.choose .initial with
      pattern := some pattern, replacement := some replacement, files }
      = chosenSettings choices pattern replacement files := by
    rw [Settings.foldl_choose]
    cases hlast : (choices.filterMap Choice.count?).getLast? <;>
      simp [Settings.initial, chosenSettings, hlast]
  -- Every option takes one round, so at least one is left for the positional arguments.
  obtain ⟨k, hk⟩ := Nat.exists_eq_add_of_le (length_le_flatMap_classified choices)
  have hrounds : (choices.flatMap Choice.classified
      ++ separated (pattern :: replacement :: files)).length + 1
      = choices.length + ((k + (separated (pattern :: replacement :: files)).length) + 1) := by
    rw [List.length_append, hk, Nat.add_assoc, Nat.add_assoc, Nat.add_assoc]
  simp only [parse, classify_commandLine, hrounds, readArguments_choices,
    readArguments_separated _ _ pattern hreplacement hfiles, hsettings]
  rfl

/-- Options in any order, in front of arguments that look like options. -/
theorem parse_commandLine_dashes :
    parse ["-i", "-n", "-5", "--ignore-case", "--count=12", "-x", "--", "-i", "", "--count=3", "-7"]
      = .ok { Settings.initial with
          ignoreCase := true, verbose := true, count := some 12
          pattern := some "-i", replacement := some "", files := ["--count=3", "-7"] } := by
  let choices : List Choice :=
    [.toggle .ignoreCase false, .count (-5) (by decide +kernel) .short, .toggle .ignoreCase true,
      .count 12 (by decide +kernel) .attached, .toggle .verbose false]
  have hline : commandLine choices "-i" "" ["--count=3", "-7"]
      = (["-i", "-n", "-5", "--ignore-case", "--count=12", "-x", "--", "-i", "", "--count=3",
        "-7"] : List Text) := by
    decide +kernel
  have hsettings : chosenSettings choices "-i" "" ["--count=3", "-7"]
      = { Settings.initial with
          ignoreCase := true, verbose := true, count := some 12
          pattern := some "-i", replacement := some "", files := ["--count=3", "-7"] } := by
    decide +kernel
  rw [← hline, ← hsettings]
  exact parse_commandLine choices "-i" "" ["--count=3", "-7"] (by decide) (by decide)

end RegexSubst.CommandLine
