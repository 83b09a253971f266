import Morphology.Proofs.Grammar.Calls
import Morphology.Proofs.Grammar.Readings
import Morphology.Proofs.Search.MorphResults
import Morphology.Proofs.Structure.Joins

/-!
# The rule that finds stems

The rule of a lexicon captures one character, two and so on, but never more than the longest stem
has, and looks up what it has captured. It finds every stem that starts at a place, with each of its
readings, and nothing else: a stretch that is longer than the longest stem has no reading. The rule
is made when a grammar is put together, so it does not matter when the stems were added.
-/

namespace Morphology

/-- The morph of a stem that stops at a place, with one of its readings. -/
def Reading.morph (reading : Reading) (stop : Nat) : Morph where
  stop
  features := reading.features
  tag := reading.tag

namespace Lexicon

variable {lexicon : Lexicon} {stem : String} {reading : Reading}

/-- The structures of all readings are canonical. -/
def Canonical (lexicon : Lexicon) : Prop :=
  ∀ stem, ∀ reading ∈ lexicon.readings stem, reading.features.Canonical

/-! ## Stems at a place -/

/-- The readings of the stems that start at a place of a text, as morphs: those of a shorter stem
come first, and those of a stem come in its order. -/
def morphsAt (lexicon : Lexicon) (text : List Char) (place : Nat) : List Morph :=
  (List.range' 1 (text.length - place)).flatMap fun n ↦
    (lexicon.readings (String.ofList (slice text place (place + n)))).map (·.morph (place + n))

theorem mem_morphsAt {text : List Char} {place : Nat} {morph : Morph} :
    morph ∈ lexicon.morphsAt text place ↔ ∃ stem reading, stem ≠ "" ∧
      stem.toList <+: text.drop place ∧ reading ∈ lexicon.readings stem ∧
      morph = reading.morph (place + stem.length) := by
  simp only [morphsAt, List.mem_flatMap, List.mem_range'_1, List.mem_map]
  constructor
  · rintro ⟨n, ⟨hpos, hlt⟩, reading, hreading, rfl⟩
    have hlength : (String.ofList (slice text place (place + n))).length = n := by
      rw [String.length_ofList, slice, List.length_take, List.length_drop]
      omega
    refine ⟨_, reading, ?_, ?_, hreading, by rw [hlength]⟩
    · intro hempty
      rw [hempty] at hlength
      exact absurd hlength (Nat.ne_of_lt hpos)
    · rw [String.toList_ofList]
      exact List.take_prefix _ _
  · rintro ⟨stem, reading, hstem, hprefix, hreading, rfl⟩
    have hslice : String.ofList (slice text place (place + stem.length)) = stem := by
      rw [slice, Nat.add_sub_cancel_left, ← String.length_toList,
        ← List.prefix_iff_eq_take.mp hprefix, String.ofList_toList]
    have hle := hprefix.length_le
    rw [List.length_drop, String.length_toList] at hle
    have hpos : 0 < stem.length :=
      Nat.pos_of_ne_zero fun hzero ↦ hstem (String.length_eq_zero_iff.mp hzero)
    exact ⟨stem.length, by omega, reading, hslice.symm ▸ hreading, rfl⟩

/-- Different stems have morphs of different lengths, so none occurs twice. -/
theorem nodup_morphsAt (hnodup : ∀ stem, (lexicon.readings stem).Nodup) (text : List Char)
    (place : Nat) : (lexicon.morphsAt text place).Nodup := by
  refine List.nodup_flatMap.mpr ⟨fun n _ ↦ ?_, ?_⟩
  · refine (hnodup _).map fun r s heq ↦ ?_
    obtain ⟨-, hfeatures, htag⟩ := Morph.mk.inj heq
    cases r
    cases s
    congr
  · refine (List.nodup_range' 1).imp fun {m n} hne ↦ ?_
    intro morph hm hn
    obtain ⟨r, -, rfl⟩ := List.mem_map.mp hm
    obtain ⟨s, -, heq⟩ := List.mem_map.mp hn
    exact hne (Nat.add_left_cancel (Morph.mk.inj heq).1).symm

/-- No stem is found beyond the length of the longest one. -/
theorem morphsAt_eq (lexicon : Lexicon) (text : List Char) (place : Nat) :
    lexicon.morphsAt text place =
      (TextPattern.lengthsBetween 1 (min (max lexicon.longestStem 1) (text.length - place))).flatMap
        fun n ↦ (lexicon.readings (String.ofList (slice text place (place + n)))).map
          (·.morph (place + n)) := by
  let shortest := min (max lexicon.longestStem 1) (text.length - place)
  have hlengths : TextPattern.lengthsBetween 1 shortest = List.range' 1 shortest := by
    cases shortest <;> rfl
  have hsplit : List.range' 1 (text.length - place) = List.range' 1 shortest ++
      List.range' (1 + shortest) (text.length - place - shortest) := by
    rw [List.range'_append_1, Nat.add_sub_cancel' (Nat.min_le_right _ _)]
  have hlong : ∀ n ∈ List.range' (1 + shortest) (text.length - place - shortest),
      (lexicon.readings (String.ofList (slice text place (place + n)))).map
        (·.morph (place + n)) = [] := by
    intro n hn
    rw [List.mem_range'_1] at hn
    refine List.map_eq_nil_iff.mpr (List.eq_nil_iff_forall_not_mem.mpr fun reading hreading ↦ ?_)
    have hle := length_le_longestStem hreading
    rw [String.length_ofList, slice, List.length_take, List.length_drop] at hle
    omega
  rw [morphsAt, hsplit, List.flatMap_append, List.flatMap_eq_nil_iff.mpr hlong, List.append_nil,
    hlengths]

end Lexicon

/-! ## Ways of the rule -/

namespace Execution

/-- A way that is capturing a stretch and knows nothing else. -/
def State.capturing (start stop : Nat) : State where
  position := stop
  features := .empty
  tag := none
  captures := [⟨0, start, none⟩]

/-- A way that has found a reading of the stretch that it captured. -/
def State.ofReading (start stop : Nat) (reading : Reading) : State where
  position := stop
  features := reading.features
  tag := some reading.tag
  captures := [⟨0, start, some stop⟩]

/-- A way that knows nothing yet takes over a reading as it is. -/
theorem takeReading_of_empty {s : State} {reading : Reading} (hs : s.features = .empty)
    (hreading : reading.features.Canonical) :
    s.takeReading reading =
      some { s with features := reading.features, tag := some reading.tag } := by
  rw [State.takeReading, State.unify, hs, Structure.empty_unify hreading]
  rfl

/-- A way that has captured a stretch goes on once for each of its readings. -/
theorem waysOfProgram_lookup {e : Setting} (hcanonical : e.lexicon.Canonical) (start stop : Nat) :
    waysOfProgram e (.capturing start stop) [.closeCapture 0, .lookup 0] =
      (e.lexicon.readings (String.ofList (slice e.text start stop))).map (.ofReading start stop) := by
  let closed : State := { State.capturing start stop with captures := [⟨0, start, some stop⟩] }
  have hclose : (State.capturing start stop).closeCapture 0 = .ok closed := rfl
  have hcaptured : closed.captured e.text 0 = .ok (slice e.text start stop) := rfl
  have htake : ∀ reading ∈ e.lexicon.readings (String.ofList (slice e.text start stop)),
      closed.takeReading reading = some (.ofReading start stop reading) :=
    fun reading hreading ↦ takeReading_of_empty rfl (hcanonical _ reading hreading)
  calc
    _ = (e.lexicon.readings (String.ofList (slice e.text start stop))).filterMap
        closed.takeReading := by
      simp only [waysOfProgram, waysOfInstruction, hclose, hcaptured, List.flatMap_singleton,
        List.flatMap_singleton']
    _ = _ := by rw [List.filterMap_congr htake, List.filterMap_eq_map']

end Execution

namespace MorphRule

variable {lexicon : Lexicon}

/-- The rule of a lexicon captures every stretch that is not longer than the longest stem. -/
theorem ways_ofLexicon (hcanonical : lexicon.Canonical) (name : String) (longest : Nat)
    (text : List Char) (place : Nat) :
    (ofLexicon name longest).ways text lexicon place =
      (TextPattern.lengthsBetween 1 (min (max longest 1) (text.length - place))).flatMap fun n ↦
        (lexicon.readings (String.ofList (slice text place (place + n)))).map
          (.ofReading place (place + n)) := by
  let e := (ofLexicon name longest).setting text lexicon place
  calc
    _ = ((TextPattern.any 1 (some (max longest 1))).lengths (text.drop place)).flatMap fun n ↦
        Execution.waysOfProgram e (.capturing place (place + n)) [.closeCapture 0, .lookup 0] := by
      rw [ways, ofLexicon, Execution.waysOfProgram, Execution.waysOfInstruction,
        List.flatMap_singleton, Execution.waysOfProgram, Execution.waysOfInstruction,
        Execution.State.read, List.flatMap_map]
      rfl
    _ = _ := by
      rw [TextPattern.lengths, TextPattern.atMost, List.length_drop]
      exact List.flatMap_congr fun n _ ↦ Execution.waysOfProgram_lookup hcanonical place (place + n)

/-- The rule of a lexicon without deep structures finds the stems that start at a place. -/
theorem result_run_ofLexicon {table : SymbolTable} {name : String}
    (hvalid : (ofLexicon name lexicon.longestStem).validate table = .ok ())
    (hcanonical : lexicon.Canonical)
    (hshallow : ∀ stem, ∀ reading ∈ lexicon.readings stem, reading.features.depth ≤ depthLimit)
    (text : List Char) (place : Nat) :
    ((ofLexicon name lexicon.longestStem).run text lexicon place).result =
      .ok (lexicon.morphsAt text place) := by
  have hways := ways_ofLexicon hcanonical name lexicon.longestStem text place
  have hdepth : ∀ s ∈ (ofLexicon name lexicon.longestStem).ways text lexicon place,
      s.features.depth ≤ depthLimit := by
    intro s hs
    rw [hways] at hs
    obtain ⟨n, -, hs⟩ := List.mem_flatMap.mp hs
    obtain ⟨reading, hreading, rfl⟩ := List.mem_map.mp hs
    exact hshallow _ reading hreading
  have hmorphs (known : List Reading) (stop : Nat) :
      (known.map (.ofReading place stop)).filterMap Execution.State.morph? =
        known.map (·.morph stop) := by
    rw [List.filterMap_map]
    exact congrFun List.filterMap_eq_map' known
  rw [result_run hvalid, if_pos hdepth, hways, List.filterMap_flatMap, Lexicon.morphsAt_eq]
  simp only [hmorphs]

end MorphRule

/-! ## Builders -/

namespace GrammarBuilder

open Lexicon (ofEntries)

variable {b : GrammarBuilder} {calls : List Call} {grammar : Grammar}

theorem parts_of_build (h : b.build = .ok grammar) :
    grammar.lexicon = b.lexicon ∧ grammar.rules = b.allRules := by
  unfold build at h
  split at h
  next => exact absurd h nofun
  next =>
    cases hmake : Grammar.make b.symbols b.lexicon b.allRules with
    | error e =>
      rw [hmake] at h
      exact absurd h nofun
    | ok made =>
      rw [hmake] at h
      obtain rfl := Except.ok.inj h
      obtain ⟨-, hlexicon, hrules⟩ := Grammar.parts_of_make hmake
      exact ⟨hlexicon, hrules⟩

theorem lexicon_eq_ofEntries (calls : List Call) :
    (after {} calls).lexicon = ofEntries (entries {} calls) := lexicon_after {} calls

theorem mem_readings_after {stem : String} {reading : Reading} :
    reading ∈ (after {} calls).lexicon.readings stem ↔ (stem, reading) ∈ entries {} calls := by
  rw [lexicon_eq_ofEntries]
  exact (Lexicon.readings_ofEntries _ stem).2 reading

/-- If any of the calls asks for a rule of the lexicon, the first rule of the grammar has the name
that was given last. The readings of a stem are those that were added in any of the calls, without
repetitions. At every place of a text the rule finds each reading of each stem that starts there
once, those of shorter stems first and those of a stem in the order in which they were added. -/
theorem finds_every_stem {name : String} (hasked : .withLexiconRule name ∈ calls)
    (hbuild : (after {} calls).build = .ok grammar)
    (hshallow : ∀ stem, ∀ reading ∈ grammar.lexicon.readings stem,
      reading.features.depth ≤ depthLimit) :
    ∃ before last rest rule, calls = before ++ .withLexiconRule last :: rest ∧
      (∀ other, .withLexiconRule other ∉ rest) ∧
      grammar.rules.morphs[0]? = some rule ∧ rule.name = last ∧
      (∀ stem, grammar.lexicon.readings stem =
        (((entries {} calls).filter (·.1 = stem)).map (·.2)).eraseDups) ∧
      ∀ text place,
        (rule.run text grammar.lexicon place).result = .ok (grammar.lexicon.morphsAt text place) ∧
        (grammar.lexicon.morphsAt text place).Nodup ∧
        ∀ morph, morph ∈ grammar.lexicon.morphsAt text place ↔
          ∃ stem reading, stem ≠ "" ∧ stem.toList <+: text.drop place ∧
            reading ∈ grammar.lexicon.readings stem ∧
            morph = reading.morph (place + stem.length) := by
  obtain ⟨before, last, rest, hsplit, hlast⟩ := exists_last_withLexiconRule hasked
  obtain ⟨hlexicon, hrules⟩ := parts_of_build hbuild
  have hname : (after {} calls).lexiconRule = some last := hsplit ▸ lexiconRule_of_last hlast
  have hmorphs : grammar.rules.morphs[0]? =
      some (.ofLexicon last grammar.lexicon.longestStem) := by
    rw [hrules, allRules, hname, hlexicon]
    rfl
  have hcanonical : grammar.lexicon.Canonical := by
    intro stem reading hreading
    rw [hlexicon, mem_readings_after] at hreading
    exact canonical_of_mem_entries hreading
  have hnodup : ∀ stem, (grammar.lexicon.readings stem).Nodup := by
    intro stem
    rw [hlexicon, lexicon_eq_ofEntries]
    exact (Lexicon.readings_ofEntries _ stem).1
  have hvalid := grammar.validate_morphRule (List.mem_of_getElem? hmorphs)
  refine ⟨before, last, rest, _, hsplit, hlast, hmorphs, rfl, fun stem ↦ ?_, fun text place ↦ ?_⟩
  · rw [hlexicon, lexicon_eq_ofEntries, Lexicon.readings_ofEntries_eq]
  · exact ⟨MorphRule.result_run_ofLexicon hvalid hcanonical hshallow text place,
      Lexicon.nodup_morphsAt hnodup text place, fun _ ↦ Lexicon.mem_morphsAt⟩

/-- Calls that ask twice for a rule of the lexicon and add readings before, between and after. -/
def stemCalls : List Call :=
  [.addLexeme "tä" "noun" [("class", "noun")], .withLexiconRule "words", .addLexeme "tä" "verb" [],
    .withLexiconRule "stems", .addLexeme "tää" "noun" [], .addLexeme "" "noun" [],
    .addLexeme "tä" "noun" [("class", "noun")]]

/-- Both stems that start at the second character are found, although the longer one was added late
and some of their characters take two bytes; the empty stem is not, and no reading comes twice. -/
theorem finds_every_stem_multibyte :
    .withLexiconRule "words" ∈ stemCalls ∧ ∃ grammar rule,
      (after {} stemCalls).build = .ok grammar ∧
      (∀ stem, ∀ reading ∈ grammar.lexicon.readings stem, reading.features.depth ≤ depthLimit) ∧
      grammar.rules.morphs[0]? = some rule ∧ rule.name = "stems" ∧
      (rule.run "ätäät".toList grammar.lexicon 1).result =
        .ok [⟨3, [(⟨1⟩, .atom ⟨0⟩)], ⟨0⟩⟩, ⟨3, [], ⟨2⟩⟩, ⟨4, [], ⟨0⟩⟩] := by
  have hasked : .withLexiconRule "words" ∈ stemCalls := .tail _ (.head _)
  obtain ⟨grammar, hbuild⟩ : ∃ grammar, (after {} stemCalls).build = .ok grammar := by
    have hok : (after {} stemCalls).build.isOk := by decide +kernel
    cases hbuild : (after {} stemCalls).build with
    | ok grammar => exact ⟨grammar, rfl⟩
    | error e =>
      rw [hbuild] at hok
      exact absurd hok nofun
  have hlexicon := (parts_of_build hbuild).1
  have hflat : ∀ entry ∈ entries {} stemCalls, entry.2.features.depth ≤ depthLimit := by
    decide +kernel
  have hshallow : ∀ stem, ∀ reading ∈ grammar.lexicon.readings stem,
      reading.features.depth ≤ depthLimit := by
    intro stem reading hreading
    rw [hlexicon, mem_readings_after] at hreading
    exact hflat _ hreading
  obtain ⟨before, last, rest, rule, hsplit, hlast, hrule, hname, -, hrun⟩ :=
    finds_every_stem hasked hbuild hshallow
  have hstems : (after {} stemCalls).lexiconRule = some "stems" := by decide +kernel
  have hsame : last = "stems" := by
    rw [hsplit, lexiconRule_of_last hlast] at hstems
    exact Option.some.inj hstems
  refine ⟨hasked, grammar, rule, hbuild, hshallow, hrule, hname.trans hsame, ?_⟩
  have hmorphs : (after {} stemCalls).lexicon.morphsAt "ätäät".toList 1 =
      [⟨3, [(⟨1⟩, .atom ⟨0⟩)], ⟨0⟩⟩, ⟨3, [], ⟨2⟩⟩, ⟨4, [], ⟨0⟩⟩] := by decide +kernel
  rw [(hrun _ 1).1, hlexicon, hmorphs]

end GrammarBuilder

end Morphology
