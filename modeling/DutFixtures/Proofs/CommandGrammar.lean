import DutFixtures.Proofs.CommandWords
import Mathlib.Data.List.Basic

namespace DutFixtures

/-- The two ways to write an option and its value. -/
inductive Spelling where
  | joined
  | apart
  deriving DecidableEq, Repr

/-- An option of a command line, with its value as it is written. -/
structure Item where
  opt : Opt
  value : String
  spelling : Spelling
  deriving DecidableEq, Repr

def Item.words (item : Item) : List String :=
  match item.spelling with
  | .joined => ["--" ++ item.opt.name ++ "=" ++ item.value]
  | .apart => ["--" ++ item.opt.name, item.value]

def Item.setting (item : Item) : Opt × String :=
  (item.opt, item.value)

/-- The words write the items one after the other, and two dashes may stand behind them.
A value in a word of its own must not look like an option. -/
structure IsWritten (argv : List String) (items : List Item) : Prop where
  words : argv = items.flatMap Item.words ∨ argv = items.flatMap Item.words ++ ["--"]
  stands : ∀ item ∈ items, item.spelling = .apart → StandsAlone item.value

/-- A command line is a sequence of items that have values which suit them, and of which no two
have the same option. -/
structure IsCommandLine (argv : List String) (items : List Item) : Prop
    extends IsWritten argv items where
  fits : ∀ item ∈ items, item.opt.Fits item.value
  once : (items.map Item.opt).Nodup

/-- The options are those of the items, with their texts, and no others. -/
structure Options.Shows (options : Options) (items : List Item) : Prop where
  appDir : ∀ value, options.appDir = some value ↔ (.appDir, value) ∈ items.map Item.setting
  target : ∀ value, options.target = some value ↔ (.target, value) ∈ items.map Item.setting
  config : ∀ value, options.config = some value ↔ (.config, value) ∈ items.map Item.setting
  buildDir : ∀ value, options.buildDir = some value ↔ (.buildDir, value) ∈ items.map Item.setting
  probeDest : ∀ value,
    options.probeDest = some value ↔ (.probeDest, value) ∈ items.map Item.setting
  logFile : ∀ value, options.logFile = some value ↔ (.logFile, value) ∈ items.map Item.setting
  dutCount : ∀ value, (.dutCount, value) ∈ items.map Item.setting →
    IsCountText value options.dutCount
  noDutCount : .dutCount ∉ items.map Item.opt → options.dutCount = 1
  logLevel : ∀ value, (.logLevel, value) ∈ items.map Item.setting → options.logLevel = value
  noLogLevel : .logLevel ∉ items.map Item.opt → options.logLevel = "info"

section Settings

variable {given more : Given} {o : Opt} {value : String}

/-- Every option is given at most once. -/
def Given.Once (given : Given) : Prop :=
  (given.map Prod.fst).Nodup

theorem Given.value?_eq_none_iff : given.value? o = none ↔ o ∉ given.map Prod.fst := by
  rw [value?, List.lookup_eq_none_iff, List.mem_map]
  constructor
  · rintro fresh ⟨entry, member, rfl⟩
    simpa using fresh entry member
  · intro fresh entry member
    rw [bne_iff_ne]
    rintro rfl
    exact fresh ⟨entry, member, rfl⟩

theorem Given.value?_eq_some_iff (once : given.Once) :
    given.value? o = some value ↔ (o, value) ∈ given := by
  induction given with
  | nil => simp [value?]
  | cons entry rest ih =>
    obtain ⟨first, text⟩ := entry
    obtain ⟨fresh, later⟩ := List.nodup_cons.mp once
    rw [value?, List.lookup_cons, List.mem_cons, Prod.mk.injEq]
    by_cases same : o = first
    · subst same
      have nowhere : (o, value) ∉ rest := fun member => fresh (List.mem_map.mpr ⟨_, member, rfl⟩)
      simp [nowhere, eq_comm]
    · have differs : (o == first) = false := beq_eq_false_iff_ne.mpr same
      simp only [differs, same, false_and, false_or]
      exact ih later

theorem Opt.check_eq_ok_iff : o.check value = .ok () ↔ o.Fits value := by
  cases o with
  | appDir => simp [check, Fits]
  | logFile => simp [check, Fits]
  | dutCount =>
    rw [check, Fits]
    simp only [← parseCount_eq_ok_iff]
    cases parseCount value with
    | ok n => simp
    | error fault => simp
  | _ => simp [check, Fits]

/-- An option is added if it is new and its value suits it. -/
theorem Given.add_eq_ok_iff :
    given.add o (some value) = .ok more ↔
      o ∉ given.map Prod.fst ∧ o.Fits value ∧ more = given ++ [(o, value)] := by
  rw [add, ← value?_eq_none_iff, ← Opt.check_eq_ok_iff]
  cases given.value? o with
  | some old => simp
  | none =>
    cases o.check value with
    | ok _ => simp [Except.map, eq_comm]
    | error e => simp [Except.map]

theorem Given.Once.add (once : given.Once) (added : given.add o (some value) = .ok more) :
    more.Once := by
  obtain ⟨fresh, -, rfl⟩ := add_eq_ok_iff.mp added
  rw [Once, List.map_append, List.map_singleton, List.nodup_append]
  refine ⟨once, by simp, ?_⟩
  rintro earlier inside new member same
  rw [List.mem_singleton.mp member] at same
  subst same
  exact fresh inside

end Settings

/-- How a word is read, and that the words behind it are read as well. -/
inductive WordRead (given result : Given) : Pending → String → List String → Prop
  | last {pending} : given.settle pending = .ok result → WordRead given result pending "--" []
  | named {pending more rest} (o : Opt) : given.settle pending = .ok more →
      readWords more (some (o, none)) rest = .ok result →
      WordRead given result pending ("--" ++ o.name) rest
  | valued {pending settled more value rest} (o : Opt) : given.settle pending = .ok settled →
      settled.add o (some value) = .ok more → readWords more none rest = .ok result →
      WordRead given result pending ("--" ++ o.name ++ "=" ++ value) rest
  | plain {o value rest} : StandsAlone value →
      readWords given (some (o, some value)) rest = .ok result →
      WordRead given result (some (o, none)) value rest

section Steps

variable {given more result : Given} {pending : Pending} {argv rest : List String}
  {o : Opt} {value word : String}

/-- An option that waits with its value might as well have been added at once. -/
theorem readWords_of_settled (settled : given.settle pending = .ok more) :
    readWords given pending argv = readWords more none argv := by
  rcases pending with _ | ⟨o, _ | value⟩
  · cases settled
    rfl
  · nomatch settled
  · have idle : more.settle none = .ok more := rfl
    cases argv with
    | nil => rw [readWords, readWords, settled, idle]
    | cons word rest =>
      rw [readWords, readWords]
      cases Word.ofString word with
      | endOfOptions => simp only [settled, idle]
      | long name given => simp only [settled, idle]
      | short letter => simp only [settled, idle]
      | plain text => rfl

/-- Help and version are faults as well, so a long word that is read names an option. -/
theorem readWords_unknown {name : String} {value : Option String}
    (long : Word.ofString word = .long name value) (unknown : Opt.ofName? name = none) :
    ∃ e, readWords given pending (word :: rest) = .error e := by
  rw [readWords, long]
  simp only [unknown]
  split
  · split
    · exact ⟨_, rfl⟩
    · split <;> exact ⟨_, rfl⟩
  · exact ⟨_, rfl⟩

/-- A word that is read is one of four: the end, one of the two spellings of an option, which
come behind a settled one, or the value that an option waits for. -/
theorem readWords_cons (read : readWords given pending (word :: rest) = .ok result) :
    WordRead given result pending word rest := by
  have form := Word.form word
  generalize formed : Word.ofString word = shape at form
  cases form with
  | endOfOptions =>
    simp only [readWords, formed] at read
    split at read
    · rename_i last
      cases List.isEmpty_iff.mp last
      exact .last read
    · nomatch read
  | named name =>
    cases named : Opt.ofName? name with
    | none =>
      obtain ⟨e, failed⟩ := readWords_unknown formed named
      nomatch failed.symm.trans read
    | some o =>
      simp only [readWords, formed, named] at read
      split at read
      · nomatch read
      · rename_i more settled
        rw [← Opt.name_of_ofName? named]
        exact .named o settled read
  | valued name value =>
    cases named : Opt.ofName? name with
    | none =>
      obtain ⟨e, failed⟩ := readWords_unknown formed named
      nomatch failed.symm.trans read
    | some o =>
      simp only [readWords, formed, named] at read
      split at read
      · nomatch read
      · rename_i more settled
        split at read
        · nomatch read
        · rename_i added
          rw [← Opt.name_of_ofName? named]
          exact .valued o settled added read
  | short letter _ =>
    simp only [readWords, formed] at read
    split at read
    · split at read <;> nomatch read
    · nomatch read
  | plain stands =>
    simp only [readWords, formed] at read
    rcases pending with _ | ⟨o, _ | value⟩
    · nomatch read
    · exact .plain stands read
    · nomatch read

/-- A state with an option that cannot be added leads nowhere, unless that option only lacks a
value and finds it in the next word. -/
theorem readWords_of_unsettled {e : UsageError} (fault : given.settle pending = .error e)
    (read : readWords given pending argv = .ok result) :
    ∃ o value rest, pending = some (o, none) ∧ argv = value :: rest ∧ StandsAlone value ∧
      readWords given (some (o, some value)) rest = .ok result := by
  have unsettled {more : Given} (settled : given.settle pending = .ok more) : False := by
    rw [fault] at settled
    nomatch settled
  cases argv with
  | nil => exact absurd read unsettled
  | cons word rest =>
    cases readWords_cons read with
    | last settled => exact absurd settled unsettled
    | named o settled _ => exact absurd settled unsettled
    | valued o settled _ _ => exact absurd settled unsettled
    | plain stands read => exact ⟨_, word, rest, rfl, rfl, stands, read⟩

/-- Reading an item is adding its option, in both spellings. -/
theorem readWords_item {item : Item} (stands : item.spelling = .apart → StandsAlone item.value)
    (added : given.add item.opt (some item.value) = .ok more) :
    readWords given none (item.words ++ rest) = readWords more none rest := by
  obtain ⟨o, value, spelling⟩ := item
  cases spelling with
  | joined =>
    rw [Item.words, List.singleton_append, readWords, Word.ofString_valued]
    simp only [Opt.ofName?_name, Given.settle, added]
  | apart =>
    rw [Item.words, List.cons_append, List.singleton_append, readWords, Word.ofString_named]
    simp only [Opt.ofName?_name, Given.settle]
    rw [readWords, Word.ofString_standing (stands rfl)]
    exact readWords_of_settled added

/-- The words that are read begin with an item whose option can be added, or they are at
their end. -/
theorem readWords_cases (read : readWords given none argv = .ok result) :
    ((argv = [] ∨ argv = ["--"]) ∧ result = given) ∨
      ∃ (item : Item) (rest : List String) (more : Given), argv = item.words ++ rest ∧
        (item.spelling = .apart → StandsAlone item.value) ∧
        given.add item.opt (some item.value) = .ok more ∧
        readWords more none rest = .ok result := by
  cases argv with
  | nil =>
    cases read
    exact Or.inl ⟨Or.inl rfl, rfl⟩
  | cons word rest =>
    cases readWords_cons read with
    | last settled =>
      cases settled
      exact Or.inl ⟨Or.inr rfl, rfl⟩
    | named o settled read =>
      cases settled
      -- The value stands in the next word, and the option may be added right behind it.
      obtain ⟨_, value, later, same, rfl, stands, read⟩ := readWords_of_unsettled rfl read
      cases same
      cases settled : given.settle (some (o, some value)) with
      | error e =>
        obtain ⟨_, _, _, same, -⟩ := readWords_of_unsettled settled read
        nomatch same
      | ok more =>
        rw [readWords_of_settled settled] at read
        exact Or.inr ⟨⟨o, value, .apart⟩, later, more, rfl, fun _ => stands, settled, read⟩
    | valued o settled added read =>
      cases settled
      exact Or.inr ⟨⟨o, _, .joined⟩, rest, _, rfl, nofun, added, read⟩

end Steps

section Runs

variable {given result : Given} {argv otherArgv ending : List String} {items otherItems : List Item}

theorem Item.words_length_pos (item : Item) : 0 < item.words.length := by
  obtain ⟨o, value, spelling⟩ := item
  cases spelling <;> exact Nat.succ_pos _

/-- What is read is a sequence of items, and their options are added in order. -/
theorem items_of_readWords (once : given.Once) (read : readWords given none argv = .ok result) :
    ∃ items : List Item, IsWritten argv items ∧ (∀ item ∈ items, item.opt.Fits item.value) ∧
      result = given ++ items.map Item.setting ∧ result.Once := by
  induction length : argv.length using Nat.strongRecOn generalizing argv given with
  | _ n ih =>
    rcases readWords_cases read with ⟨ending, rfl⟩ | ⟨item, rest, more, rfl, stands, added, later⟩
    · exact ⟨[], ⟨by simpa using ending, nofun⟩, nofun, by simp, once⟩
    · have shorter : rest.length < n := by
        have positive := item.words_length_pos
        rw [List.length_append] at length
        omega
      obtain ⟨items, written, fits, whole, onceAll⟩ :=
        ih rest.length shorter (once.add added) later rfl
      obtain ⟨-, fitsFirst, rfl⟩ := Given.add_eq_ok_iff.mp added
      refine ⟨item :: items, ⟨?_, ?_⟩, ?_, ?_, onceAll⟩
      · rcases written.words with rfl | rfl
        · exact Or.inl rfl
        · exact Or.inr (by rw [List.flatMap_cons, List.append_assoc])
      · exact List.forall_mem_cons.mpr ⟨stands, written.stands⟩
      · exact List.forall_mem_cons.mpr ⟨fitsFirst, fits⟩
      · rw [whole, List.append_assoc]
        rfl

/-- Items are read one after the other, and the two dashes at the end change nothing. -/
theorem readWords_items (ended : ending = [] ∨ ending = ["--"])
    (stands : ∀ item ∈ items, item.spelling = .apart → StandsAlone item.value)
    (fits : ∀ item ∈ items, item.opt.Fits item.value)
    (once : Given.Once (given ++ items.map Item.setting)) :
    readWords given none (items.flatMap Item.words ++ ending) =
      .ok (given ++ items.map Item.setting) := by
  induction items generalizing given with
  | nil =>
    rw [List.map_nil, List.append_nil]
    rcases ended with rfl | rfl <;> rfl
  | cons item items ih =>
    obtain ⟨standsFirst, standsLater⟩ := List.forall_mem_cons.mp stands
    obtain ⟨fitsFirst, fitsLater⟩ := List.forall_mem_cons.mp fits
    have fresh : item.opt ∉ given.map Prod.fst := by
      intro inside
      rw [Given.Once, List.map_append, List.nodup_append] at once
      exact once.2.2 _ inside item.opt (List.mem_cons_self ..) rfl
    have added := Given.add_eq_ok_iff.mpr ⟨fresh, fitsFirst, rfl⟩
    have split : given ++ (item :: items).map Item.setting =
        given ++ [(item.opt, item.value)] ++ items.map Item.setting := by
      rw [List.append_assoc]
      rfl
    rw [split] at once ⊢
    rw [List.flatMap_cons, List.append_assoc, readWords_item standsFirst added]
    exact ih standsLater fitsLater once

theorem Given.once_settings : Given.Once (items.map Item.setting) ↔ (items.map Item.opt).Nodup := by
  rw [Once, List.map_map]
  rfl

theorem IsCommandLine.parse (line : IsCommandLine argv items) :
    Options.parse argv = .ok (Given.options (items.map Item.setting)) := by
  have once : Given.Once ([] ++ items.map Item.setting) := Given.once_settings.mpr line.once
  obtain ⟨ending, ended, words⟩ : ∃ ending, (ending = [] ∨ ending = ["--"]) ∧
      argv = items.flatMap Item.words ++ ending := by
    rcases line.words with words | words
    · exact ⟨[], Or.inl rfl, by rw [words, List.append_nil]⟩
    · exact ⟨["--"], Or.inr rfl, words⟩
  rw [Options.parse, words, readWords_items ended line.stands line.fits once]
  rfl

/-- The options that were added, looked up one by one, are those of the items. -/
theorem IsCommandLine.shows (line : IsCommandLine argv items) :
    (Given.options (items.map Item.setting)).Shows items := by
  have once : Given.Once (items.map Item.setting) := Given.once_settings.mpr line.once
  have found (o : Opt) (value : String) :
      Given.value? (items.map Item.setting) o = some value ↔
        (o, value) ∈ items.map Item.setting :=
    Given.value?_eq_some_iff once
  have absent (o : Opt) (missing : o ∉ items.map Item.opt) :
      Given.value? (items.map Item.setting) o = none := by
    rw [Given.value?_eq_none_iff, List.map_map]
    exact missing
  exact {
    appDir := found .appDir
    target := found .target
    config := found .config
    buildDir := found .buildDir
    probeDest := found .probeDest
    logFile := found .logFile
    dutCount := by
      intro value member
      obtain ⟨item, inside, same⟩ := List.mem_map.mp member
      have fits := line.fits item inside
      obtain ⟨isCount, rfl⟩ := Prod.mk.inj same
      rw [isCount] at fits
      obtain ⟨n, count⟩ := fits
      have read := parseCount_eq_ok_iff.mpr count
      simpa [Given.options, (found _ _).mpr member, read] using count
    noDutCount := by
      intro missing
      simp [Given.options, absent _ missing]
    logLevel := by
      intro value member
      simp [Given.options, (found _ _).mpr member]
    noLogLevel := by
      intro missing
      simp [Given.options, absent _ missing] }

/-- The order in which options were added does not matter, as each has one value only. -/
theorem Given.options_of_perm {other : Given} (once : given.Once) (same : given.Perm other) :
    Given.options other = Given.options given := by
  have onceOther : Given.Once other := (same.map Prod.fst).nodup_iff.mp once
  have lookups (o : Opt) : other.value? o = given.value? o := by
    refine Option.ext fun value => ?_
    rw [value?_eq_some_iff onceOther, value?_eq_some_iff once, same.mem_iff]
  simp only [options, lookups]

/-- The items of a command line may be written in any other order and spelling. -/
theorem IsCommandLine.of_perm (line : IsCommandLine argv items)
    (written : IsWritten otherArgv otherItems)
    (same : (items.map Item.setting).Perm (otherItems.map Item.setting)) :
    IsCommandLine otherArgv otherItems where
  toIsWritten := written
  fits := by
    intro item member
    have setting : item.setting ∈ items.map Item.setting :=
      same.mem_iff.mpr (List.mem_map_of_mem member)
    obtain ⟨old, inside, equal⟩ := List.mem_map.mp setting
    have fits := line.fits old inside
    obtain ⟨sameOpt, sameValue⟩ := Prod.mk.inj equal
    rwa [sameOpt, sameValue] at fits
  once := by
    have once := Given.once_settings.mpr line.once
    exact Given.once_settings.mp ((same.map Prod.fst).nodup_iff.mp once)

/-- The words are accepted exactly if they are a command line. The options then show the items
of the command line, whose order and spelling make no difference. -/
theorem Options.parse_grammar (argv : List String) :
    ((∃ options, Options.parse argv = .ok options) ↔ ∃ items, IsCommandLine argv items) ∧
      (∀ items, IsCommandLine argv items →
        ∃ options, Options.parse argv = .ok options ∧ options.Shows items ∧
          options.defaults = ⟨options.appDir, options.target, options.config, options.buildDir,
            options.dutCount, options.probeDest⟩) ∧
      ∀ items otherArgv otherItems, IsCommandLine argv items → IsWritten otherArgv otherItems →
        (items.map Item.setting).Perm (otherItems.map Item.setting) →
        Options.parse otherArgv = Options.parse argv := by
  refine ⟨⟨?_, ?_⟩, ?_, ?_⟩
  · rintro ⟨options, parsed⟩
    rw [Options.parse] at parsed
    cases read : readWords [] none argv with
    | error e =>
      rw [read] at parsed
      nomatch parsed
    | ok given =>
      have empty : Given.Once [] := List.nodup_nil
      obtain ⟨items, written, fits, rfl, once⟩ := items_of_readWords empty read
      exact ⟨items, written, fits, Given.once_settings.mp once⟩
  · rintro ⟨items, line⟩
    exact ⟨_, line.parse⟩
  · intro items line
    exact ⟨_, line.parse, line.shows, rfl⟩
  · intro items otherArgv otherItems line written same
    rw [line.parse, (line.of_perm written same).parse,
      Given.options_of_perm (Given.once_settings.mpr line.once) same]

end Runs

/-- A command line with both spellings, with a value that looks like an option and has an equals
sign in it, and with two dashes at the end. It may be written in another order. -/
theorem Options.parse_grammar_mixed :
    let argv := ["--target", "a|b", "--log-file=-x=", "--dut-count=+02", "--"]
    let items : List Item :=
      [⟨.target, "a|b", .apart⟩, ⟨.logFile, "-x=", .joined⟩, ⟨.dutCount, "+02", .joined⟩]
    let other := ["--dut-count", "+02", "--target=a|b", "--log-file=-x="]
    IsCommandLine argv items ∧
      (∃ options, Options.parse argv = .ok options ∧ options.Shows items) ∧
      Options.parse other = Options.parse argv := by
  intro argv items other
  have line : IsCommandLine argv items :=
    { words := Or.inr rfl
      stands := by decide
      fits := by
        simp only [items, List.forall_mem_cons]
        have named : "-x=" ≠ "" := by decide
        have count : IsCountText "+02" 2 := parseCount_eq_ok_iff.mp rfl
        exact ⟨trivial, named, ⟨2, count⟩, nofun⟩
      once := by decide }
  have written : IsWritten other
      [⟨.dutCount, "+02", .apart⟩, ⟨.target, "a|b", .joined⟩, ⟨.logFile, "-x=", .joined⟩] :=
    { words := Or.inl rfl
      stands := by decide }
  obtain ⟨-, shown, reordered⟩ := parse_grammar argv
  obtain ⟨options, parsed, shows, -⟩ := shown items line
  exact ⟨line, ⟨options, parsed, shows⟩, reordered items other _ line written (by decide)⟩

end DutFixtures
