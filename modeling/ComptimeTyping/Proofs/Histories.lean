import ComptimeTyping.Proofs.Ledger

/-! What a symbol table answers after any sequence of operations, read off the sequence
alone: the binding of a name across the scopes that are entered and left, the signature of a
function, and which operations fail. -/

namespace ComptimeTyping

/-- A stretch of operations in which every scope that is entered is left again, and no
other one. -/
inductive Balanced : List TableOperation → Prop where
  | nil : Balanced []
  | flat {operation : TableOperation} {rest : List TableOperation}
      (stays : operation.opens? = none) (keeps : operation ≠ .exit) (after : Balanced rest) :
      Balanced (operation :: rest)
  | nested {opening : TableOperation} {inner rest : List TableOperation}
      (enters : opening.opens?.isSome) (inside : Balanced inner) (after : Balanced rest) :
      Balanced (opening :: inner ++ .exit :: rest)

namespace Ledger

/-! ## Stretches -/

/-- A scope that is entered declares nothing yet. -/
theorem record_of_opens {operation : TableOperation} (opens : operation.opens?.isSome)
    (ledger : Ledger) :
    (ledger.record operation).outer = ledger.scopes ∧
      (ledger.record operation).marked = ledger.marked ∧
      ∀ name, (ledger.record operation).declaration? name = ledger.declaration? name := by
  cases operation with
  | enterBlock => exact ⟨rfl, rfl, fun _ => rfl⟩
  | enterFunction => exact ⟨rfl, rfl, fun _ => rfl⟩
  | _ => cases opens

/-- Only entering and leaving a scope touches the scopes around the innermost one. -/
theorem record_outer {operation : TableOperation} (stays : operation.opens? = none)
    (keeps : operation ≠ .exit) (ledger : Ledger) :
    (ledger.record operation).outer = ledger.outer := by
  cases operation with
  | enterBlock => cases stays
  | enterFunction => cases stays
  | exit => exact absurd rfl keeps
  | declare symbol => rfl
  | declareParameter parameter =>
      unfold record
      dsimp only
      split <;> rfl
  | markInitialized name =>
      unfold record
      dsimp only
      split <;> rfl
  | declareFunction signature => rfl

theorem record_exit {ledger : Ledger} {inner : OpenScope} {outer : List OpenScope}
    (rest : ledger.outer = inner :: outer) :
    (ledger.record .exit).inner = inner ∧ (ledger.record .exit).outer = outer ∧
      (ledger.record .exit).marked = ledger.marked := by
  unfold record
  dsimp only
  rw [rest]
  exact ⟨rfl, rfl, rfl⟩

/-- The scopes around the innermost one are the same after a balanced stretch. -/
theorem outer_of_balanced {stretch : List TableOperation} (balanced : Balanced stretch)
    (ledger : Ledger) : (stretch.foldl record ledger).outer = ledger.outer := by
  induction balanced generalizing ledger with
  | nil => rfl
  | flat stays keeps _ induction =>
      rw [List.foldl_cons, induction, record_outer stays keeps]
  | @nested opening inner rest enters _ _ inside after =>
      have left := (inside (ledger.record opening)).trans (record_of_opens enters ledger).1
      rw [List.cons_append, List.foldl_cons, List.foldl_append, List.foldl_cons, after]
      exact (record_exit left).2.1

/-- With the scope that was entered all that was noted in it is gone. -/
theorem scopes_of_stretch {opening : TableOperation} {inner : List TableOperation}
    (enters : opening.opens?.isSome) (balanced : Balanced inner) (ledger : Ledger) :
    ((opening :: inner ++ [TableOperation.exit]).foldl record ledger).scopes = ledger.scopes ∧
      ((opening :: inner ++ [TableOperation.exit]).foldl record ledger).marked =
        (inner.foldl record (ledger.record opening)).marked := by
  have outer := (outer_of_balanced balanced (ledger.record opening)).trans
    (record_of_opens enters ledger).1
  rw [List.cons_append, List.foldl_cons, List.foldl_concat]
  obtain ⟨first, rest, marked⟩ := record_exit outer
  refine ⟨?_, marked⟩
  rw [Ledger.scopes, first, rest, Ledger.scopes]

theorem declarations_of_record (ledger : Ledger) (operation : TableOperation)
    {declaration : Declaration} (member : declaration ∈ (ledger.record operation).declarations) :
    declaration ∈ ledger.declarations ∨ ledger.moment ≤ declaration.moment := by
  have noted : ∀ symbol, declaration ∈ Ledger.declarations { ledger with
      inner := ledger.inner.add ⟨ledger.moment, symbol⟩, moment := ledger.moment + 1 } →
      declaration ∈ ledger.declarations ∨ ledger.moment ≤ declaration.moment := by
    intro symbol member
    rcases (mem_declarations_add ledger symbol declaration).1 member with older | rfl
    · exact .inl older
    · exact .inr (Nat.le_refl _)
  cases operation with
  | enterBlock => exact .inl (by simpa [record, declarations, scopes] using member)
  | enterFunction => exact .inl (by simpa [record, declarations, scopes] using member)
  | exit =>
      unfold record at member
      dsimp only at member
      split at member
      · exact .inl member
      · next rest =>
          left
          unfold declarations
          rw [scopes, rest, List.flatMap_cons]
          exact List.mem_append_right _ member
  | declare symbol => exact noted symbol member
  | declareParameter parameter =>
      unfold record at member
      dsimp only at member
      split at member
      · exact noted parameter.toSymbol member
      · exact .inl member
  | markInitialized name =>
      unfold record at member
      dsimp only at member
      split at member <;> exact .inl member
  | declareFunction signature => exact .inl member

theorem record_moment (ledger : Ledger) (operation : TableOperation) :
    (ledger.record operation).moment = ledger.moment + 1 := by
  unfold record
  cases operation <;> dsimp only <;> split <;> rfl

/-- A declaration that was not there before is newer. -/
theorem declarations_of_foldl (operations : List TableOperation) (ledger : Ledger)
    {declaration : Declaration}
    (member : declaration ∈ (operations.foldl record ledger).declarations) :
    declaration ∈ ledger.declarations ∨ ledger.moment ≤ declaration.moment := by
  induction operations generalizing ledger with
  | nil => exact .inl member
  | cons operation rest induction =>
      rcases induction _ member with older | newer
      · exact declarations_of_record ledger operation older
      · rw [record_moment] at newer
        exact .inr (Nat.le_of_succ_le newer)

/-- Among the operations one marks the binding of a declaration, under a name that stands for
it there. -/
def Marks (ledger : Ledger) (operations : List TableOperation) (moment : Nat) : Prop :=
  ∃ earlier name later, operations = earlier ++ .markInitialized name :: later ∧
    ((earlier.foldl record ledger).declaration? name).map Declaration.moment = some moment

theorem mem_marked_record (ledger : Ledger) (operation : TableOperation) (moment : Nat) :
    moment ∈ (ledger.record operation).marked ↔ moment ∈ ledger.marked ∨
      ∃ name, operation = .markInitialized name ∧
        (ledger.declaration? name).map Declaration.moment = some moment := by
  cases operation with
  | markInitialized name =>
      unfold record
      dsimp only
      cases found : ledger.declaration? name with
      | none => simp [found]
      | some declaration => simp [found, or_comm, eq_comm]
  | enterBlock => simp [record]
  | enterFunction => simp [record]
  | exit =>
      unfold record
      dsimp only
      split <;> simp
  | declare symbol => simp [record]
  | declareParameter parameter =>
      unfold record
      dsimp only
      split <;> simp
  | declareFunction signature => simp [record]

theorem marks_cons (ledger : Ledger) (operation : TableOperation) (rest : List TableOperation)
    (moment : Nat) :
    ledger.Marks (operation :: rest) moment ↔
      (∃ name, operation = .markInitialized name ∧
        (ledger.declaration? name).map Declaration.moment = some moment) ∨
      (ledger.record operation).Marks rest moment := by
  constructor
  · rintro ⟨_ | ⟨first, earlier⟩, name, later, split, found⟩
    · obtain ⟨rfl, -⟩ := List.cons.inj split
      exact .inl ⟨name, rfl, found⟩
    · obtain ⟨rfl, rest⟩ := List.cons.inj split
      exact .inr ⟨earlier, name, later, rest, found⟩
  · rintro (⟨name, rfl, found⟩ | ⟨earlier, name, later, rfl, found⟩)
    · exact ⟨[], name, rest, rfl, found⟩
    · exact ⟨operation :: earlier, name, later, rfl, found⟩

/-- What is marked was marked before, or one of the operations marks it. -/
theorem mem_marked_foldl (operations : List TableOperation) (ledger : Ledger) (moment : Nat) :
    moment ∈ (operations.foldl record ledger).marked ↔
      moment ∈ ledger.marked ∨ ledger.Marks operations moment := by
  induction operations generalizing ledger with
  | nil => simp [Marks]
  | cons operation rest induction =>
      rw [List.foldl_cons, induction, mem_marked_record, marks_cons, or_assoc]

/-- A moment that was given before stands for the same declaration later on. -/
theorem eq_of_moment {ledger : Ledger} {table : SymbolTable} (tells : ledger.Tells table)
    (operations : List TableOperation) {declaration later : Declaration}
    (member : declaration ∈ ledger.declarations)
    (memberLater : later ∈ (operations.foldl record ledger).declarations)
    (same : later.moment = declaration.moment) : later = declaration := by
  have earlier := tells.earlier declaration member
  rcases declarations_of_foldl operations ledger memberLater with older | newer
  · exact List.inj_on_of_nodup_map tells.distinct older member same
  · omega

/-- A binding is marked under its own name, where the name stands for it still. -/
theorem marks_iff {ledger : Ledger} {table : SymbolTable} (tells : ledger.Tells table)
    (operations : List TableOperation) {name : String} {declaration : Declaration}
    (found : ledger.declaration? name = some declaration) :
    ledger.Marks operations declaration.moment ↔
      ∃ earlier later, operations = earlier ++ .markInitialized name :: later ∧
        (earlier.foldl record ledger).declaration? name = ledger.declaration? name := by
  obtain ⟨member, named⟩ := mem_of_declaration? found
  constructor
  · rintro ⟨earlier, other, later, split, marked⟩
    obtain ⟨hit, foundHit, moments⟩ := Option.map_eq_some_iff.1 marked
    obtain ⟨memberHit, namedHit⟩ := mem_of_declaration? foundHit
    obtain rfl := eq_of_moment tells earlier member memberHit moments
    obtain rfl := namedHit.symm.trans named
    exact ⟨earlier, later, split, foundHit.trans found.symm⟩
  · rintro ⟨earlier, later, split, unshadowed⟩
    exact ⟨earlier, name, later, split, by rw [unshadowed, found]; rfl⟩

/-- Above the global scope there are only functions and blocks. -/
def Rooted (ledger : Ledger) : Prop :=
  ∃ above, ledger.scopes.map OpenScope.kind = above ++ [.global] ∧ .global ∉ above

theorem Rooted.of_kinds {before after : Ledger} (rooted : before.Rooted)
    (inner : after.inner.kind = before.inner.kind) (outer : after.outer = before.outer) :
    after.Rooted := by
  obtain ⟨above, kinds, inside⟩ := rooted
  refine ⟨above, ?_, inside⟩
  rw [← kinds, scopes, scopes, List.map_cons, List.map_cons, inner, outer]

theorem Rooted.enter {ledger : Ledger} (rooted : ledger.Rooted) {kind : ScopeKind}
    (other : kind ≠ .global) {marked : List Nat} {moment : Nat} :
    Rooted ⟨⟨kind, []⟩, ledger.scopes, marked, moment⟩ := by
  obtain ⟨above, kinds, inside⟩ := rooted
  exact ⟨kind :: above, congrArg (kind :: ·) kinds, by simp [inside, other.symm]⟩

theorem Rooted.record {ledger : Ledger} (rooted : ledger.Rooted) (operation : TableOperation) :
    (ledger.record operation).Rooted := by
  cases operation with
  | enterBlock => exact rooted.enter (by decide)
  | enterFunction => exact rooted.enter (by decide)
  | exit =>
      unfold Ledger.record
      dsimp only
      split
      · exact rooted.of_kinds rfl rfl
      · next inner outer rest =>
          obtain ⟨_ | ⟨kind, above⟩, kinds, inside⟩ := rooted
          · simp [scopes, rest] at kinds
          · rw [scopes, rest] at kinds
            exact ⟨above, (List.cons.inj kinds).2, fun member =>
              inside (List.mem_cons_of_mem kind member)⟩
  | declare symbol => exact rooted.of_kinds rfl rfl
  | declareParameter parameter =>
      unfold Ledger.record
      dsimp only
      split <;> exact rooted.of_kinds rfl rfl
  | markInitialized name =>
      unfold Ledger.record
      dsimp only
      split <;> exact rooted.of_kinds rfl rfl
  | declareFunction signature => exact rooted.of_kinds rfl rfl

theorem rooted_ofHistory (history : List TableOperation) : (ofHistory history).Rooted := by
  induction history using List.reverseRecOn with
  | nil => exact ⟨[], rfl, by simp⟩
  | append_singleton history operation induction =>
      rw [ofHistory, List.foldl_concat]
      exact induction.record operation

theorem keptAs_binding {before after : Ledger} (declaration : Declaration)
    (grows : declaration.moment ∈ before.marked → declaration.moment ∈ after.marked) :
    (before.binding declaration).KeptAs (after.binding declaration) := by
  refine ⟨rfl, rfl, rfl, rfl, rfl, rfl, rfl, fun initialized => ?_⟩
  simp only [binding, Bool.or_eq_true, List.contains_iff_mem] at initialized ⊢
  exact initialized.imp_right grows

/-- Across a balanced stretch the binding of a name is raised just where an operation inside
marks the name while it stands for that binding. -/
theorem Tells.stretch {ledger : Ledger} {table : SymbolTable} (tells : ledger.Tells table)
    {opening : TableOperation} {inner : List TableOperation} (enters : opening.opens?.isSome)
    (balanced : Balanced inner) {name : String} {declaration : Declaration}
    (found : ledger.declaration? name = some declaration) :
    let after := (opening :: inner ++ [TableOperation.exit]).foldl record ledger
    (ledger.binding declaration).KeptAs (after.binding declaration) ∧
      ((after.binding declaration).isInitialized = true ↔
        (ledger.binding declaration).isInitialized = true ∨
        ∃ earlier later, inner = earlier ++ .markInitialized name :: later ∧
          ((opening :: earlier).foldl record ledger).declaration? name =
            ledger.declaration? name) := by
  intro after
  obtain ⟨-, unmarked, same⟩ := record_of_opens enters ledger
  have marked : declaration.moment ∈ after.marked ↔ declaration.moment ∈ ledger.marked ∨
      (ledger.record opening).Marks inner declaration.moment := by
    rw [(scopes_of_stretch enters balanced ledger).2, mem_marked_foldl, unmarked]
  have hits := marks_iff (tells.perform opening) inner ((same name).trans found)
  rw [same name] at hits
  refine ⟨keptAs_binding declaration fun member => marked.2 (.inl member), ?_⟩
  simp only [binding, Bool.or_eq_true, List.contains_iff_mem, marked, hits, or_assoc,
    List.foldl_cons]

end Ledger

namespace SymbolTable

/-! ## Functions and failures -/

theorem functions_declare (table : SymbolTable) (symbol : Symbol) :
    ((table.declare symbol).toOption.getD table).functions = table.functions := by
  rw [declare_eq]
  cases table.inner.find? symbol.name <;> rfl

/-- Variables and functions do not meet. -/
theorem functions_perform (table : SymbolTable) {operation : TableOperation}
    (other : ∀ signature, operation ≠ .declareFunction signature) :
    (table.perform operation).functions = table.functions := by
  rw [perform_eq]
  cases operation with
  | enterBlock => rfl
  | enterFunction => rfl
  | exit =>
      rcases table with ⟨_, _ | ⟨inner, outer⟩, functions, depth⟩ <;> rfl
  | declare symbol => exact table.functions_declare symbol
  | declareParameter parameter =>
      change ((table.declareParameter parameter).toOption.getD table).functions = _
      rw [declareParameter_eq]
      split
      · exact table.functions_declare parameter.toSymbol
      · rfl
  | markInitialized name =>
      exact (table.keptAs_markInitialized name).functions
  | declareFunction signature => exact absurd rfl (other signature)

theorem function?_perform (table : SymbolTable) (operation : TableOperation) (name : String) :
    (table.perform operation).function? name =
      (table.function? name).or (operation.registers? name) := by
  cases operation with
  | declareFunction signature =>
      cases signature with
      | none => exact (Option.or_none).symm
      | some signature =>
          rw [perform_eq]
          change ((table.declareFunction (some signature)).toOption.getD table).function? name = _
          rw [declareFunction_eq]
          unfold TableOperation.registers?
          cases known : table.function? signature.name with
          | some older =>
              dsimp only [Except.toOption, Option.getD_none]
              by_cases same : signature.name = name
              · subst same
                rw [known, Option.some_or]
              · simp [same]
          | none =>
              dsimp only [Except.toOption, Option.getD_some]
              by_cases same : signature.name = name
              · subst same
                rw [known, Option.none_or]
                simp [function?]
              · simp [function?, same]
  | _ =>
      unfold function?
      rw [functions_perform table (by rintro _ ⟨⟩)]
      exact (Option.or_none).symm

/-- A function keeps the signature that was registered for its name first. -/
theorem function?_ofHistory (history : List TableOperation) (name : String) :
    (ofHistory history).function? name = history.findSome? (·.registers? name) := by
  induction history using List.reverseRecOn with
  | nil => rfl
  | append_singleton history operation induction =>
      rw [List.findSome?_append, ← induction, List.findSome?_singleton]
      unfold ofHistory
      rw [List.foldl_concat, function?_perform]

end SymbolTable

/-- Why an operation fails after a history. -/
def TableOperation.FailsAfter (history : List TableOperation) : TableOperation → Prop
  | .exit => (Ledger.ofHistory history).outer = []
  | .declare symbol => ((Ledger.ofHistory history).inner.declaration? symbol.name).isSome
  | .declareParameter parameter =>
      (Ledger.ofHistory history).inner.kind ≠ .function ∨
        ((Ledger.ofHistory history).inner.declaration? parameter.name).isSome
  | .declareFunction none => True
  | .declareFunction (some signature) =>
      (history.findSome? (·.registers? signature.name)).isSome
  | .enterBlock | .enterFunction | .markInitialized _ => False

namespace SymbolTable

theorem declare_eq_none_iff (table : SymbolTable) (symbol : Symbol) :
    (table.declare symbol).toOption = none ↔ (table.inner.find? symbol.name).isSome := by
  rw [declare_eq]
  cases table.inner.find? symbol.name <;> simp [Except.toOption]

theorem attempt?_eq_none_iff (history : List TableOperation) (operation : TableOperation) :
    operation.attempt? (ofHistory history) = none ↔ operation.FailsAfter history := by
  have tells := Ledger.tells_ofHistory history
  have head : ((Ledger.ofHistory history).inner).Tells (Ledger.ofHistory history).binding
      (ofHistory history).inner := by
    have scopes := tells.scopes
    simp only [Ledger.scopes, SymbolTable.scopes, List.forall₂_cons] at scopes
    exact scopes.1
  unfold TableOperation.FailsAfter
  cases operation with
  | enterBlock | enterFunction | markInitialized => exact iff_of_false (Option.some_ne_none _) not_false
  | exit => exact tells.exit?_eq_none_iff.2
  | declare symbol => exact (declare_eq_none_iff _ symbol).trans (by rw [head.isSome_find?])
  | declareParameter parameter =>
      change ((ofHistory history).declareParameter parameter).toOption = none ↔ _
      rw [declareParameter_eq, head.kind]
      split
      · next function =>
          rw [declare_eq_none_iff, head.isSome_find?]
          simp [function, Parameter.toSymbol]
      · next elsewhere => simp [elsewhere, Except.toOption]
  | declareFunction signature =>
      cases signature with
      | none => exact iff_of_true rfl trivial
      | some signature =>
          change ((ofHistory history).declareFunction (some signature)).toOption = none ↔ _
          dsimp only
          rw [← function?_ofHistory, declareFunction_eq]
          cases (ofHistory history).function? signature.name <;> simp [Except.toOption]

/-- What a table answers after any history. Its depth is the number of open scopes above the
global one, and just at depth 0 there is no scope to leave. A name stands for the binding
that was declared in the innermost open scope that declares it. After a balanced stretch it
stands for the same one as before, which is initialized now if it was or if an operation
inside marked the name where it stood for that binding. Functions stay what they were
registered as first. An operation that fails changes nothing. -/
theorem agrees_with_history (history : List TableOperation) :
    (∃ above, (Ledger.ofHistory history).scopes.map OpenScope.kind = above ++ [.global] ∧
      .global ∉ above ∧ (ofHistory history).depth = above.length) ∧
    ((ofHistory history).exit? = none ↔ (ofHistory history).depth = 0) ∧
    (∀ name, (ofHistory history).lookup? name =
      ((Ledger.ofHistory history).declaration? name).map (Ledger.ofHistory history).binding) ∧
    (∀ opening inner, opening.opens?.isSome → Balanced inner → ∀ name,
      (Ledger.ofHistory (history ++ (opening :: inner ++ [.exit]))).declaration? name =
        (Ledger.ofHistory history).declaration? name ∧
      Option.Rel (fun before after => before.KeptAs after ∧
          (after.isInitialized = true ↔ before.isInitialized = true ∨
            ∃ earlier later, inner = earlier ++ .markInitialized name :: later ∧
              (Ledger.ofHistory (history ++ opening :: earlier)).declaration? name =
                (Ledger.ofHistory history).declaration? name))
        ((ofHistory history).lookup? name)
        ((ofHistory (history ++ (opening :: inner ++ [.exit]))).lookup? name)) ∧
    (∀ name, (ofHistory history).function? name = history.findSome? (·.registers? name)) ∧
    (∀ later name signature, (ofHistory history).function? name = some signature →
      (ofHistory (history ++ later)).function? name = some signature) ∧
    ∀ operation,
      (operation.attempt? (ofHistory history) = none ↔ operation.FailsAfter history) ∧
      (operation.attempt? (ofHistory history) = none →
        ofHistory (history ++ [operation]) = ofHistory history) := by
  have tells := Ledger.tells_ofHistory history
  refine ⟨?_, tells.exit?_eq_none_iff.1, tells.lookup?, ?_, function?_ofHistory history, ?_, ?_⟩
  · obtain ⟨above, kinds, inside⟩ := Ledger.rooted_ofHistory history
    have lengths := congrArg List.length kinds
    simp only [Ledger.scopes, List.length_map, List.length_cons, List.length_append,
      List.length_nil] at lengths
    have depth := tells.depth
    exact ⟨above, kinds, inside, by omega⟩
  · intro opening inner enters balanced name
    have same : (Ledger.ofHistory (history ++ (opening :: inner ++ [.exit]))).declaration? name =
        (Ledger.ofHistory history).declaration? name := by
      unfold Ledger.declaration?
      rw [Ledger.ofHistory, List.foldl_append,
        (Ledger.scopes_of_stretch enters balanced _).1, Ledger.ofHistory]
    refine ⟨same, ?_⟩
    rw [tells.lookup?, (Ledger.tells_ofHistory _).lookup?, same]
    cases found : (Ledger.ofHistory history).declaration? name with
    | none => exact .none
    | some declaration =>
        have kept := tells.stretch enters balanced found
        simp only [Ledger.ofHistory, List.foldl_append] at kept found ⊢
        rw [found] at kept
        exact .some kept
  · intro later name signature found
    rw [function?_ofHistory] at found ⊢
    rw [List.findSome?_append, found, Option.some_or]
  · intro operation
    refine ⟨attempt?_eq_none_iff history operation, fun fails => ?_⟩
    rw [ofHistory, List.foldl_concat, perform_eq]
    exact (congrArg (Option.getD · (ofHistory history)) fails)

namespace Stretch

/-- A variable without a value, a function, and the scope of the function with a parameter. -/
def history : List TableOperation :=
  [.declare { name := "x", type := some .bool, isMutable := true, isInitialized := false },
    .declareFunction (some ⟨"f", [⟨"n", some .bool, false⟩], none⟩),
    .enterFunction, .declareParameter ⟨"n", some .bool, false⟩]

/-- In a block the variable is marked, then shadowed, and the other one is marked. -/
def marks : List TableOperation :=
  [.markInitialized "x", .enterBlock, .declare { name := "x", type := none, isMutable := false },
    .markInitialized "x", .exit]

theorem balanced_marks : Balanced marks := by
  have shadowed : Balanced [.declare { name := "x", type := none, isMutable := false },
      .markInitialized "x"] := .flat rfl (by decide) (.flat rfl (by decide) .nil)
  exact .flat rfl (by decide) (.nested rfl shadowed .nil)

end Stretch

open Stretch in
theorem agrees_with_history_sample :
    TableOperation.enterBlock.opens?.isSome = true ∧ Balanced marks ∧
    (ofHistory history).depth = 1 ∧
    ((ofHistory (history ++ (.enterBlock :: marks ++ [.exit]))).lookup? "x").map
      Symbol.isInitialized = some true ∧
    ((ofHistory (history ++ (.enterBlock :: marks ++ [.exit]))).function? "f").isSome = true ∧
    TableOperation.attempt? (ofHistory history) (.declareFunction none) = none ∧
    ofHistory (history ++ [.declareFunction none]) = ofHistory history := by
  obtain ⟨-, -, lookup, stretch, -, functions, failures⟩ := agrees_with_history history
  obtain ⟨fails, unchanged⟩ := failures (.declareFunction none)
  have kept := (stretch .enterBlock marks rfl balanced_marks "x").2
  refine ⟨rfl, balanced_marks, rfl, ?_, ?_, fails.2 trivial, unchanged (fails.2 trivial)⟩
  · have declared : (ofHistory history).lookup? "x" =
        some { name := "x", type := some .bool, isMutable := true, isInitialized := false } := by
      rw [lookup]
      decide
    rw [declared] at kept
    generalize (ofHistory (history ++ (.enterBlock :: marks ++ [.exit]))).lookup? "x" = later
      at kept ⊢
    cases kept with
    | some kept => exact congrArg some (kept.2.2 (.inr ⟨[], _, rfl, by decide⟩))
  · rw [functions _ "f" _ rfl]
    rfl

end SymbolTable

end ComptimeTyping
