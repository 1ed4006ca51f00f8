import RuleTree.Proofs.CommandLine.Binding
import RuleTree.Proofs.Json.Conversion
import RuleTree.Proofs.Registry.Table

/-!
Contract: what a list of bindings comes to.

One binding has a name and a text behind it (`Binds`), and the text stands for the value of
the JSON document that it is, or for itself (`StandsFor`). Reading a list inserts one entry
after the other (`bindingsFrom?_eq_ok`) and ends at the first text that is no binding
(`bindingsFrom?_eq_error_iff`). So the value of a name is that of its last binding, and
everything else about a list follows from the entries it makes (`bindings?_last_wins`).

Owns: the entries of a list of bindings, and which of them counts.
Does not own: the split of one binding (`Binding`), and tables (`Registry.Table`).
-/

namespace RuleTree.CommandLine

/-! ## One binding -/

/-- A name, an equals sign, and a text that may hold further ones. -/
structure Binds (pair name text : String) : Prop where
  parts : pair = name ++ "=" ++ text
  plain : '=' ∉ name.toList
  named : name ≠ ""

/-- The value of a text in a binding: what it says as JSON without objects at any depth, else
the text itself. -/
inductive StandsFor (text : String) : Value → Prop where
  | document {document : Json} {value : Value}
      (parsed : Json.read? jsonDepth text = some document)
      (plain : ¬ document.HoldsObject)
      (decoded : Value.decode document = .ok value) : StandsFor text value
  | itself
      (foreign : ∀ document, Json.read? jsonDepth text = some document → document.HoldsObject) :
      StandsFor text (.string text)

/-- Why a text is no binding. -/
inductive Refused (pair : String) : BindingError → Prop where
  | noValue (absent : '=' ∉ pair.toList) : Refused pair (.noValue pair)
  | noName (first : pair.toList.head? = some '=') : Refused pair (.noName pair)

/-- The message quotes the text. -/
theorem Refused.message {pair : String} {error : BindingError} (refused : Refused pair error) :
    ∃ fault, error.message = "binding '" ++ pair ++ "'" ++ fault := by
  cases refused with
  | noValue =>
      refine ⟨" is not of the form NAME=VALUE", ?_⟩
      simp [BindingError.message, String.append_assoc]
  | noName =>
      refine ⟨" has an empty name", ?_⟩
      simp [BindingError.message, String.append_assoc]

theorem standsFor_iff {text : String} {value : Value} :
    StandsFor text value ↔ bindingValue text = value := by
  constructor
  · intro stands
    cases stands with
    | document parsed plain decoded => simp only [bindingValue, parsed, decoded]
    | itself foreign =>
        unfold bindingValue
        split
        · next document parsed =>
            obtain ⟨error, failed⟩ := Value.decode_fails_iff.mpr (foreign document parsed)
            simp only [failed]
        · rfl
  · rintro rfl
    unfold bindingValue
    split
    · next document parsed =>
        split
        · next value decoded =>
            apply StandsFor.document parsed _ decoded
            rw [← Value.decode_fails_iff, decoded]
            simp
        · next error failed =>
            apply StandsFor.itself
            intro other same
            rw [parsed] at same
            exact Option.some.inj same ▸ Value.decode_fails_iff.mp ⟨error, failed⟩
    · next unparsed =>
        apply StandsFor.itself
        simp [unparsed]

theorem binding?_of_binds {pair name text : String} (binds : Binds pair name text) :
    binding? pair = .ok (name, bindingValue text) := by
  have chars : pair = String.ofList (name.toList ++ '=' :: text.toList) := by
    rw [binds.parts, ← String.toList_inj]
    simp [String.toList_append]
  have nonempty : name.toList ≠ [] := mt String.toList_eq_nil_iff.mp binds.named
  rw [chars, binding?_of_name nonempty binds.plain, String.ofList_toList, String.ofList_toList]

theorem not_misbound_iff {pair : String} :
    ¬ Misbound pair ↔ ∃ name text, Binds pair name text := by
  constructor
  · intro wellBound
    obtain ⟨present, notFirst⟩ := not_or.mp wellBound
    obtain ⟨name, text, split, plain⟩ := List.eq_append_cons_of_mem (not_not.mp present)
    refine ⟨.ofList name, .ofList text, ?_, by rwa [String.toList_ofList], ?_⟩
    · rw [← String.toList_inj, split]
      simp [String.toList_append]
    · intro empty
      rw [split, String.ofList_eq_empty_iff.mp empty] at notFirst
      exact notFirst rfl
  · rintro ⟨name, text, binds⟩ misbound
    obtain ⟨error, failed⟩ := binding?_fails_iff.mpr misbound
    rw [binding?_of_binds binds] at failed
    cases failed

theorem binding?_eq_ok_iff {pair name : String} {value : Value} :
    binding? pair = .ok (name, value) ↔ ∃ text, Binds pair name text ∧ StandsFor text value := by
  constructor
  · intro read
    have wellBound : ¬ Misbound pair := by
      rw [← binding?_fails_iff, read]
      simp
    obtain ⟨found, text, binds⟩ := not_misbound_iff.mp wellBound
    rw [binding?_of_binds binds, Except.ok.injEq, Prod.mk.injEq] at read
    obtain ⟨rfl, value⟩ := read
    exact ⟨text, binds, standsFor_iff.mpr value⟩
  · rintro ⟨text, binds, stands⟩
    rw [binding?_of_binds binds, standsFor_iff.mp stands]

theorem binding?_of_refused {pair : String} {error : BindingError}
    (refused : Refused pair error) : binding? pair = .error error := by
  cases refused with
  | noValue absent => rw [binding?, splitAtEquals_of_not_mem absent]
  | noName first =>
      obtain ⟨text, chars⟩ : ∃ text, pair.toList = '=' :: text := List.head?_eq_some_iff.mp first
      rw [binding?, chars]
      rfl

theorem binding?_eq_error_iff {pair : String} {error : BindingError} :
    binding? pair = .error error ↔ Refused pair error := by
  refine ⟨fun failed => ?_, binding?_of_refused⟩
  obtain ⟨reason, refused⟩ : ∃ reason, Refused pair reason := by
    rcases binding?_fails_iff.mp ⟨error, failed⟩ with absent | first
    · exact ⟨_, .noValue absent⟩
    · exact ⟨_, .noName first⟩
  have same := (binding?_of_refused refused).symm.trans failed
  exact Except.error.inj same ▸ refused

/-! ## Lists of bindings -/

/-- The text binds the name to something. -/
def BindsName (name pair : String) : Prop :=
  ∃ text, Binds pair name text

theorem Binds.bindsName_iff {pair name text other : String} (binds : Binds pair name text) :
    BindsName other pair ↔ other = name := by
  constructor
  · rintro ⟨found, there⟩
    have same := (binding?_of_binds binds).symm.trans (binding?_of_binds there)
    exact (Prod.mk.inj (Except.ok.inj same)).1.symm
  · rintro rfl
    exact ⟨text, binds⟩

/-- The last binding of a name binds it to this text. -/
inductive LastBinds (name text : String) : List String → Prop where
  | here {pair : String} {pairs : List String}
      (binds : Binds pair name text)
      (last : ∀ later ∈ pairs, ¬ BindsName name later) : LastBinds name text (pair :: pairs)
  | later {pair : String} {pairs : List String}
      (behind : LastBinds name text pairs) : LastBinds name text (pair :: pairs)

/-- The first text that is no binding is refused for this reason. -/
inductive FirstRefused : List String → BindingError → Prop where
  | here {pair : String} {pairs : List String} {error : BindingError}
      (refused : Refused pair error) : FirstRefused (pair :: pairs) error
  | later {pair : String} {pairs : List String} {error : BindingError}
      (wellBound : ¬ Misbound pair)
      (behind : FirstRefused pairs error) : FirstRefused (pair :: pairs) error

/-- The entries that bindings make, in their order. -/
def entries (pairs : List String) : List (String × Value) :=
  pairs.filterMap fun pair => (binding? pair).toOption

theorem entries_cons (pair : String) (pairs : List String) :
    entries (pair :: pairs) = (binding? pair).toOption.toList ++ entries pairs := by
  rw [entries, List.filterMap_cons]
  cases binding? pair <;> rfl

theorem entries_append (pairs others : List String) :
    entries (pairs ++ others) = entries pairs ++ entries others :=
  List.filterMap_append

/-- Reading bindings inserts their entries. -/
theorem bindingsFrom?_eq_ok {pairs : List String} (wellBound : ∀ pair ∈ pairs, ¬ Misbound pair)
    (start : Bindings) : bindingsFrom? start pairs = .ok (start.insertAll (entries pairs)) := by
  induction pairs generalizing start with
  | nil => rfl
  | cons pair pairs inductionHypothesis =>
      obtain ⟨wellBoundHere, wellBoundRest⟩ := List.forall_mem_cons.mp wellBound
      obtain ⟨name, text, binds⟩ := not_misbound_iff.mp wellBoundHere
      rw [bindingsFrom?, entries_cons, binding?_of_binds binds]
      exact inductionHypothesis wellBoundRest (start.insert name (bindingValue text))

theorem bindings?_eq_ok {pairs : List String} (wellBound : ∀ pair ∈ pairs, ¬ Misbound pair) :
    bindings? pairs = .ok (.ofList (entries pairs)) :=
  bindingsFrom?_eq_ok wellBound .empty

theorem bindings?_eq_ok_iff {pairs : List String} {bindings : Bindings} :
    bindings? pairs = .ok bindings ↔
      (∀ pair ∈ pairs, ¬ Misbound pair) ∧ bindings = .ofList (entries pairs) := by
  constructor
  · intro read
    have wellBound : ∀ pair ∈ pairs, ¬ Misbound pair := by
      intro pair member misbound
      obtain ⟨error, failed⟩ := bindings?_fails_iff.mpr ⟨pair, member, misbound⟩
      rw [read] at failed
      cases failed
    rw [bindings?_eq_ok wellBound, Except.ok.injEq] at read
    exact ⟨wellBound, read.symm⟩
  · rintro ⟨wellBound, rfl⟩
    exact bindings?_eq_ok wellBound

/-- Reading bindings ends at the first text that is none. -/
theorem bindingsFrom?_eq_error_iff {pairs : List String} {error : BindingError}
    (start : Bindings) :
    bindingsFrom? start pairs = .error error ↔ FirstRefused pairs error := by
  induction pairs generalizing start with
  | nil => exact iff_of_false nofun nofun
  | cons pair pairs inductionHypothesis =>
      constructor
      · intro failed
        rw [bindingsFrom?] at failed
        split at failed
        · next reason refused =>
            rw [Except.error.injEq] at failed
            exact .here (binding?_eq_error_iff.mp (failed ▸ refused))
        · next name value read =>
            apply FirstRefused.later
            · rw [← binding?_fails_iff, read]
              simp
            · exact (inductionHypothesis _).mp failed
      · intro first
        rw [bindingsFrom?]
        cases first with
        | here refused => rw [binding?_of_refused refused]
        | later wellBound behind =>
            obtain ⟨name, text, binds⟩ := not_misbound_iff.mp wellBound
            rw [binding?_of_binds binds]
            exact (inductionHypothesis _).mpr behind

/-! ## The entry under a name -/

theorem findIn_entry_iff {pair name : String} {value : Value} :
    Table.findIn name (binding? pair).toOption.toList.reverse = some value ↔
      ∃ text, Binds pair name text ∧ StandsFor text value := by
  rw [← binding?_eq_ok_iff]
  cases binding? pair with
  | error error => simp [Except.toOption, Table.findIn]
  | ok entry => simp [Except.toOption, Table.findIn, Prod.ext_iff]

theorem findIn_entry_isSome_iff {pair name : String} :
    (Table.findIn name (binding? pair).toOption.toList.reverse).isSome = true ↔
      BindsName name pair := by
  rw [Option.isSome_iff_exists]
  constructor
  · rintro ⟨value, found⟩
    obtain ⟨text, binds, -⟩ := findIn_entry_iff.mp found
    exact ⟨text, binds⟩
  · rintro ⟨text, binds⟩
    exact ⟨bindingValue text, findIn_entry_iff.mpr ⟨text, binds, standsFor_iff.mpr rfl⟩⟩

instance (name pair : String) : Decidable (BindsName name pair) :=
  decidable_of_iff _ findIn_entry_isSome_iff

theorem findIn_entry_eq_none_iff {pair name : String} :
    Table.findIn name (binding? pair).toOption.toList.reverse = none ↔ ¬ BindsName name pair := by
  rw [← findIn_entry_isSome_iff, Bool.not_eq_true, Option.isSome_eq_false_iff,
    Option.isNone_iff_eq_none]

theorem findIn_entries_eq_none_iff {pairs : List String} {name : String} :
    Table.findIn name (entries pairs).reverse = none ↔ ∀ pair ∈ pairs, ¬ BindsName name pair := by
  induction pairs with
  | nil => exact iff_of_true rfl nofun
  | cons pair pairs inductionHypothesis =>
      rw [entries_cons, List.reverse_append, Table.findIn_append, Option.or_eq_none_iff,
        inductionHypothesis, findIn_entry_eq_none_iff, List.forall_mem_cons, and_comm]

/-- Bindings of other names do not count. -/
theorem findIn_entries_filter (pairs : List String) (name : String) :
    Table.findIn name (entries (pairs.filter (BindsName name ·))).reverse =
      Table.findIn name (entries pairs).reverse := by
  induction pairs with
  | nil => rfl
  | cons pair pairs inductionHypothesis =>
      rw [entries_cons, List.reverse_append, Table.findIn_append, ← inductionHypothesis]
      by_cases here : BindsName name pair
      · rw [List.filter_cons, if_pos (decide_eq_true here), entries_cons, List.reverse_append,
          Table.findIn_append]
      · rw [List.filter_cons_of_neg (by simpa using here), findIn_entry_eq_none_iff.mpr here,
          Option.or_none]

/-- The entry under a name is that of its last binding. -/
theorem findIn_entries_iff {pairs : List String} {name : String} {value : Value} :
    Table.findIn name (entries pairs).reverse = some value ↔
      ∃ text, LastBinds name text pairs ∧ StandsFor text value := by
  induction pairs with
  | nil => exact iff_of_false nofun nofun
  | cons pair pairs inductionHypothesis =>
      rw [entries_cons, List.reverse_append, Table.findIn_append, Option.or_eq_some_iff,
        inductionHypothesis, findIn_entries_eq_none_iff, findIn_entry_iff]
      constructor
      · rintro (⟨text, behind, stands⟩ | ⟨last, text, binds, stands⟩)
        · exact ⟨text, .later behind, stands⟩
        · exact ⟨text, .here binds last, stands⟩
      · rintro ⟨text, here | behind, stands⟩
        · exact .inr ⟨‹_›, text, ‹_›, stands⟩
        · exact .inl ⟨text, behind, stands⟩

/-! ## Overriding -/

section Read

variable {pairs : List String} {bindings : Bindings} (read : bindings? pairs = .ok bindings)

include read

theorem unique_bindings : bindings.Unique := by
  rw [(bindings?_eq_ok_iff.mp read).2]
  exact Table.unique_ofList _

theorem find?_bindings (name : String) :
    bindings.find? name = Table.findIn name (entries pairs).reverse := by
  rw [(bindings?_eq_ok_iff.mp read).2, Table.find?_ofList_eq]

/-- The last binding of a name is in force. -/
theorem find?_bindings_eq_some_iff (name : String) (value : Value) :
    bindings.find? name = some value ↔
      ∃ text, LastBinds name text pairs ∧ StandsFor text value := by
  rw [find?_bindings read, findIn_entries_iff]

theorem mem_names_bindings_iff (name : String) :
    name ∈ bindings.names ↔ ∃ pair ∈ pairs, BindsName name pair := by
  rw [Table.mem_names_iff, find?_bindings read, ← Option.ne_none_iff_isSome, ne_eq,
    findIn_entries_eq_none_iff]
  simp

/-- Further bindings override those that were read. -/
theorem bindings?_append {others : List String} {overrides : Bindings}
    (readOthers : bindings? others = .ok overrides) :
    ∃ both, bindings? (pairs ++ others) = .ok both ∧
      ∀ name, both.find? name = (overrides.find? name).or (bindings.find? name) := by
  have wellBound : ∀ pair ∈ pairs ++ others, ¬ Misbound pair := by
    rw [List.forall_mem_append]
    exact ⟨(bindings?_eq_ok_iff.mp read).1, (bindings?_eq_ok_iff.mp readOthers).1⟩
  refine ⟨_, bindings?_eq_ok wellBound, fun name => ?_⟩
  rw [Table.find?_ofList_eq, entries_append, List.reverse_append, Table.findIn_append,
    find?_bindings read, find?_bindings readOthers]

/-- Bindings of different names may be given in any order. -/
theorem bindings?_perm {others : List String} (permuted : others.Perm pairs)
    (sameOrder : ∀ name, others.filter (BindsName name ·) = pairs.filter (BindsName name ·)) :
    ∃ reordered, bindings? others = .ok reordered ∧
      ∀ name, reordered.find? name = bindings.find? name := by
  have wellBound : ∀ pair ∈ others, ¬ Misbound pair := fun pair member =>
    (bindings?_eq_ok_iff.mp read).1 pair (permuted.mem_iff.mp member)
  refine ⟨_, bindings?_eq_ok wellBound, fun name => ?_⟩
  rw [Table.find?_ofList_eq, find?_bindings read, ← findIn_entries_filter, sameOrder,
    findIn_entries_filter]

end Read

/-- What stands behind the first equals sign makes no binding fail. -/
theorem exists_bindings?_insert {before after : List String} {bindings : Bindings}
    (read : bindings? (before ++ after) = .ok bindings) {pair name text : String}
    (binds : Binds pair name text) :
    ∃ longer, bindings? (before ++ pair :: after) = .ok longer := by
  have wellBound := (bindings?_eq_ok_iff.mp read).1
  apply exists_bindings?
  intro other member
  rcases List.mem_append.mp member with early | late
  · exact wellBound other (List.mem_append_left after early)
  · rcases List.mem_cons.mp late with rfl | late
    · exact not_misbound_iff.mpr ⟨name, text, binds⟩
    · exact wellBound other (List.mem_append_right before late)

/-- **The last binding of a name counts, and nothing but the bindings does.**

A list of texts is read exactly if each one has an equals sign, and not in front; else the
first one that has none or has no name is refused, and the message quotes it. The table has
the names that stand before the first equals sign of a text, each with the value of its last
binding: of the JSON document without objects that stands there, or of the text as it is. A
further list overrides what the first one binds, bindings of different names can change
places, and a binding can be added anywhere, whatever its text is. -/
theorem bindings?_last_wins (pairs : List String) :
    ((∃ bindings, bindings? pairs = .ok bindings) ↔ ∀ pair ∈ pairs, ¬ Misbound pair) ∧
    (∀ error, bindings? pairs = .error error ↔ FirstRefused pairs error) ∧
    (∀ pair error, Refused pair error →
      ∃ fault, error.message = "binding '" ++ pair ++ "'" ++ fault) ∧
    ∀ bindings, bindings? pairs = .ok bindings →
      bindings.Unique ∧
      (∀ name, name ∈ bindings.names ↔ ∃ pair ∈ pairs, BindsName name pair) ∧
      (∀ name value, bindings.find? name = some value ↔
        ∃ text, LastBinds name text pairs ∧ StandsFor text value) ∧
      (∀ others overrides, bindings? others = .ok overrides →
        ∃ both, bindings? (pairs ++ others) = .ok both ∧
          ∀ name, both.find? name = (overrides.find? name).or (bindings.find? name)) ∧
      (∀ others : List String, others.Perm pairs →
        (∀ name, others.filter (BindsName name ·) = pairs.filter (BindsName name ·)) →
        ∃ reordered, bindings? others = .ok reordered ∧
          ∀ name, reordered.find? name = bindings.find? name) ∧
      ∀ before after pair name text, pairs = before ++ after → Binds pair name text →
        ∃ longer, bindings? (before ++ pair :: after) = .ok longer := by
  refine ⟨?_, fun error => bindingsFrom?_eq_error_iff .empty, fun pair error => Refused.message, ?_⟩
  · constructor
    · rintro ⟨bindings, read⟩
      exact (bindings?_eq_ok_iff.mp read).1
    · exact exists_bindings?
  · intro bindings read
    refine ⟨unique_bindings read, mem_names_bindings_iff read, find?_bindings_eq_some_iff read,
      ?_, ?_, ?_⟩
    · intro others overrides readOthers
      exact bindings?_append read readOthers
    · intro others permuted sameOrder
      exact bindings?_perm read permuted sameOrder
    · intro before after pair name text parts binds
      exact exists_bindings?_insert (parts ▸ read) binds

/-- An array after a number, an object inside an array, and a text with an equals sign. -/
theorem bindings?_last_wins_repeated :
    let pairs := ["rule=1", "note=[\x7b\x7d]", "rule=[true]", "text=x=[1]"]
    let others := ["note=[\x7b\x7d]", "rule=1", "rule=[true]", "text=x=[1]"]
    ∃ bindings, bindings? pairs = .ok bindings ∧
      bindings.find? "rule" = some (.list [.boolean true]) ∧
      bindings.find? "note" = some (.string "[\x7b\x7d]") ∧
      bindings.find? "text" = some (.string "x=[1]") ∧
      ∃ reordered, bindings? others = .ok reordered ∧
        ∀ name, reordered.find? name = bindings.find? name := by
  intro pairs others
  have first : Binds "rule=1" "rule" "1" := ⟨rfl, by decide, by decide⟩
  have note : Binds "note=[\x7b\x7d]" "note" "[\x7b\x7d]" := ⟨rfl, by decide, by decide⟩
  have second : Binds "rule=[true]" "rule" "[true]" := ⟨rfl, by decide, by decide⟩
  have last : Binds "text=x=[1]" "text" "x=[1]" := ⟨rfl, by decide, by decide⟩
  obtain ⟨succeeds, -, -, laws⟩ := bindings?_last_wins pairs
  obtain ⟨bindings, read⟩ := succeeds.mpr (by unfold Misbound; decide +kernel)
  obtain ⟨-, -, values, -, reorder, -⟩ := laws bindings read
  refine ⟨bindings, read, ?_, ?_, ?_, ?_⟩
  · apply (values _ _).mpr
    refine ⟨"[true]", .later (.later (.here second ?_)), standsFor_iff.mpr rfl⟩
    simp [last.bindsName_iff]
  · apply (values _ _).mpr
    refine ⟨"[\x7b\x7d]", .later (.here note ?_), standsFor_iff.mpr rfl⟩
    simp [second.bindsName_iff, last.bindsName_iff]
  · apply (values _ _).mpr
    exact ⟨"x=[1]", .later (.later (.later (.here last nofun))), standsFor_iff.mpr rfl⟩
  · apply reorder others (.swap _ _ _)
    intro name
    by_cases here : name = "note"
    · simp [pairs, others, first.bindsName_iff, note.bindsName_iff, second.bindsName_iff, here]
    · simp [pairs, others, List.filter_cons, first.bindsName_iff, note.bindsName_iff,
        second.bindsName_iff, here]

end RuleTree.CommandLine
