import ComptimeTyping.Diagnostic.Report
import ComptimeTyping.Proofs.Marks

/-! What a bag keeps of the reports that it gets: the first report of each problem, up to the
limit. The limit cuts off the end of what a bag without one would keep, every new problem that
arrives behind the cut is counted, and sorting only moves the kept reports. -/

namespace ComptimeTyping

/-! ## Problems -/

/-- What a diagnostic is about: two reports with the same place, code and message are reports of
one problem. -/
def Diagnostic.problem (diagnostic : Diagnostic) : Position × Code × String :=
  (diagnostic.position, diagnostic.code, diagnostic.message)

namespace Code

theorem colon_not_mem_text {code : Code} (known : code ∈ taxonomy) : ':' ∉ code.text.toList := by
  have noColon : ∀ code ∈ taxonomy, ':' ∉ code.text.toList := by decide +kernel
  exact noColon code known

theorem eq_of_text_eq {left right : Code} (leftKnown : left ∈ taxonomy)
    (rightKnown : right ∈ taxonomy) (same : left.text = right.text) : left = right := by
  have distinct : ∀ left ∈ taxonomy, ∀ right ∈ taxonomy, left.text = right.text → left = right := by
    decide +kernel
  exact distinct left leftKnown right rightKnown same

end Code

/-- The parts of a key are divided by colons, and only the last part may contain one. -/
theorem Diagnostic.toList_key (diagnostic : Diagnostic) :
    diagnostic.key.toList =
      (toString diagnostic.position.line).toList ++ ':' ::
        ((toString diagnostic.position.column).toList ++ ':' ::
          (diagnostic.code.text.toList ++ ':' :: diagnostic.message.toList)) := by
  have colon : ":".toList = [':'] := rfl
  unfold key
  simp only [String.toList_append, colon, List.append_assoc, List.cons_append, List.nil_append]

theorem Diagnostic.key_eq_iff {left right : Diagnostic} (leftKnown : left.code ∈ Code.taxonomy)
    (rightKnown : right.code ∈ Code.taxonomy) :
    left.key = right.key ↔ left.problem = right.problem := by
  have noColon : ∀ value : Int, ':' ∉ (toString value).toList :=
    Text.not_mem_toString_int rfl (by decide)
  rw [← String.toList_inj, toList_key, toList_key, Text.append_mark_inj (noColon _) (noColon _),
    Text.append_mark_inj (noColon _) (noColon _),
    Text.append_mark_inj (Code.colon_not_mem_text leftKnown) (Code.colon_not_mem_text rightKnown)]
  simp only [String.toList_inj, Text.toString_int_inj]
  constructor
  · rintro ⟨line, column, code, message⟩
    have position : left.position = right.position := by
      cases leftPosition : left.position
      cases rightPosition : right.position
      rw [leftPosition, rightPosition] at line column
      exact congrArg₂ Position.mk line column
    unfold problem
    rw [position, Code.eq_of_text_eq leftKnown rightKnown code, message]
  · intro same
    unfold problem at same
    rw [Prod.mk.injEq, Prod.mk.injEq] at same
    rcases same with ⟨position, code, message⟩
    rw [position, code, message]
    exact ⟨rfl, rfl, rfl, rfl⟩

/-! ## First reports -/

/-- The first report of each problem, in report order. -/
def firstReports : List Diagnostic → List Diagnostic
  | [] => []
  | first :: later => first :: (firstReports later).filter (·.problem ≠ first.problem)

/-- One more report counts only if none of the reports before it has its problem. -/
theorem firstReports_concat (reports : List Diagnostic) (last : Diagnostic) :
    firstReports (reports ++ [last]) =
      if ∃ report ∈ reports, report.problem = last.problem then firstReports reports
      else firstReports reports ++ [last] := by
  induction reports with
  | nil => simp [firstReports]
  | cons first reports induction =>
      rw [List.cons_append, firstReports, induction, firstReports]
      by_cases known : ∃ report ∈ reports, report.problem = last.problem
      · simp [known]
      · rw [if_neg known]
        by_cases same : first.problem = last.problem
        · simp [same, List.filter_append]
        · have different : ¬ last.problem = first.problem := fun equal => same equal.symm
          simp [known, same, different, List.filter_append]

theorem mem_of_mem_firstReports {reports : List Diagnostic} {report : Diagnostic}
    (member : report ∈ firstReports reports) : report ∈ reports := by
  induction reports with
  | nil => exact member
  | cons first reports induction =>
      rw [firstReports, List.mem_cons, List.mem_filter] at member
      rcases member with rfl | ⟨member, _⟩
      · exact List.mem_cons_self
      · exact List.mem_cons_of_mem first (induction member)

/-- Every problem that is reported has a first report. -/
theorem exists_firstReport {reports : List Diagnostic} {report : Diagnostic}
    (member : report ∈ reports) :
    ∃ first ∈ firstReports reports, first.problem = report.problem := by
  induction reports with
  | nil => cases member
  | cons head reports induction =>
      rw [firstReports]
      rcases List.mem_cons.mp member with rfl | member
      · exact ⟨_, List.mem_cons_self, rfl⟩
      · rcases induction member with ⟨first, isFirst, same⟩
        by_cases equal : first.problem = head.problem
        · exact ⟨head, List.mem_cons_self, equal ▸ same⟩
        · refine ⟨first, List.mem_cons_of_mem head ?_, same⟩
          exact List.mem_filter.mpr ⟨isFirst, decide_eq_true equal⟩

/-! ## Limits -/

/-- The entries up to a limit. A limit of zero or less is none. -/
def upTo {α : Type} (limit : Int) (entries : List α) : List α :=
  if limit ≤ 0 then entries else entries.take limit.toNat

section UpTo

variable {α β : Type} {limit : Int} {entries : List α}

theorem upTo_isFirstPart (limit : Int) (entries : List α) : upTo limit entries <+: entries := by
  unfold upTo
  split
  · exact List.prefix_rfl
  · exact List.take_prefix _ _

theorem upTo_map (transform : α → β) :
    upTo limit (entries.map transform) = (upTo limit entries).map transform := by
  unfold upTo
  split
  · rfl
  · rw [List.map_take]

theorem upTo_eq_self (enough : limit ≤ 0 ∨ entries.length ≤ limit) :
    upTo limit entries = entries := by
  unfold upTo
  split
  · rfl
  · exact List.take_of_length_le (by omega)

/-- Behind the limit nothing counts. -/
theorem upTo_append (full : limit ≤ entries.length) (positive : 0 < limit) (more : List α) :
    upTo limit (entries ++ more) = upTo limit entries := by
  unfold upTo
  rw [if_neg (by omega), if_neg (by omega), List.take_append_of_le_length (by omega)]

theorem le_length_upTo_iff (positive : 0 < limit) :
    limit ≤ (upTo limit entries).length ↔ limit ≤ entries.length := by
  unfold upTo
  rw [if_neg (by omega), List.length_take]
  omega

end UpTo

/-! ## One report -/

/-- A diagnostic that names no file is one of the given file. -/
def Diagnostic.within (file : String) (diagnostic : Diagnostic) : Diagnostic :=
  if diagnostic.file = "" then { diagnostic with file } else diagnostic

@[simp] theorem Diagnostic.problem_within (file : String) (diagnostic : Diagnostic) :
    (diagnostic.within file).problem = diagnostic.problem := by
  unfold within
  split <;> rfl

@[simp] theorem Diagnostic.code_within (file : String) (diagnostic : Diagnostic) :
    (diagnostic.within file).code = diagnostic.code := by
  unfold within
  split <;> rfl

namespace Bag

variable {bag : Bag} {diagnostic : Diagnostic} {reports : List (Option Diagnostic)}

/-- A report is of a problem that is recorded, or it finds the bag full, or it is recorded. -/
theorem report_cases (bag : Bag) (diagnostic : Diagnostic) :
    (bag.isRecorded diagnostic = true ∧ bag.report diagnostic = bag) ∨
    (bag.isRecorded diagnostic = false ∧ bag.isFull = true ∧
      bag.report diagnostic = { bag with dropped := bag.dropped + 1 }) ∨
    (bag.isRecorded diagnostic = false ∧ bag.isFull = false ∧
      bag.report diagnostic =
        { bag with recorded := bag.recorded ++ [diagnostic.within bag.file] }) := by
  unfold report
  cases bag.isRecorded diagnostic with
  | true => exact .inl ⟨rfl, rfl⟩
  | false =>
      cases bag.isFull with
      | true => exact .inr (.inl ⟨rfl, rfl, rfl⟩)
      | false => exact .inr (.inr ⟨rfl, rfl, rfl⟩)

theorem isFull_iff : bag.isFull = true ↔ 0 < bag.limit ∧ bag.limit ≤ bag.recorded.length :=
  decide_eq_true_iff

theorem isRecorded_iff (recorded : ∀ entry ∈ bag.recorded, entry.code ∈ Code.taxonomy)
    (known : diagnostic.code ∈ Code.taxonomy) :
    bag.isRecorded diagnostic = true ↔
      ∃ entry ∈ bag.recorded, entry.problem = diagnostic.problem := by
  unfold isRecorded
  rw [List.any_eq_true]
  apply exists_congr
  intro entry
  apply and_congr_right
  intro member
  rw [beq_iff_eq, Diagnostic.key_eq_iff (recorded entry member) known]

/-! ## What a bag holds -/

/-- A bag has got some reports, and has kept and counted what it should. -/
structure HasTaken (bag : Bag) (reports : List Diagnostic) : Prop where
  recorded : bag.recorded = (upTo bag.limit (firstReports reports)).map (.within bag.file)
  dropped : bag.dropped = 0 ↔ bag.limit ≤ 0 ∨ (firstReports reports).length ≤ bag.limit

namespace HasTaken

variable {reports : List Diagnostic} (taken : bag.HasTaken reports)
include taken

theorem exists_report {entry : Diagnostic} (member : entry ∈ bag.recorded) :
    ∃ report ∈ reports, report.problem = entry.problem ∧ report.code = entry.code := by
  rw [taken.recorded, List.mem_map] at member
  rcases member with ⟨report, member, rfl⟩
  have isFirst := (upTo_isFirstPart _ _).mem member
  exact ⟨report, mem_of_mem_firstReports isFirst, by simp⟩

theorem codes (known : ∀ report ∈ reports, report.code ∈ Code.taxonomy) :
    ∀ entry ∈ bag.recorded, entry.code ∈ Code.taxonomy := by
  intro entry member
  rcases taken.exists_report member with ⟨report, reported, _, code⟩
  exact code ▸ known report reported

theorem isFull_iff_length :
    bag.isFull = true ↔ 0 < bag.limit ∧ bag.limit ≤ (firstReports reports).length := by
  rw [isFull_iff, taken.recorded, List.length_map]
  exact and_congr_right fun positive => le_length_upTo_iff positive

/-- As long as nothing was cut off, every problem that was reported is recorded. -/
theorem exists_entry (enough : bag.limit ≤ 0 ∨ (firstReports reports).length ≤ bag.limit)
    {report : Diagnostic} (member : report ∈ reports) :
    ∃ entry ∈ bag.recorded, entry.problem = report.problem := by
  rcases exists_firstReport member with ⟨first, isFirst, same⟩
  refine ⟨first.within bag.file, ?_, by rw [Diagnostic.problem_within, same]⟩
  rw [taken.recorded, upTo_eq_self enough]
  exact List.mem_map_of_mem isFirst

/-- One report keeps the bag as it should be. -/
theorem report (known : ∀ report ∈ reports, report.code ∈ Code.taxonomy)
    (diagnosticKnown : diagnostic.code ∈ Code.taxonomy) :
    (bag.report diagnostic).HasTaken (reports ++ [diagnostic]) := by
  have isRecorded := isRecorded_iff (taken.codes known) diagnosticKnown
  rcases report_cases bag diagnostic with
    ⟨old, result⟩ | ⟨new, full, result⟩ | ⟨new, room, result⟩
  · -- The problem is known, so its report is no first one.
    rcases isRecorded.mp old with ⟨entry, member, same⟩
    rcases taken.exists_report member with ⟨report, reported, problem, _⟩
    rw [result]
    have firsts := firstReports_concat reports diagnostic
    rw [if_pos ⟨report, reported, problem.trans same⟩] at firsts
    exact ⟨firsts ▸ taken.recorded, firsts ▸ taken.dropped⟩
  · -- The bag is full: the report is cut off, or the one that it repeats has been.
    have notRecorded : ¬ ∃ entry ∈ bag.recorded, entry.problem = diagnostic.problem := by
      rw [← isRecorded, new]
      exact Bool.false_ne_true
    rcases taken.isFull_iff_length.mp full with ⟨positive, long⟩
    rw [result]
    have firsts := firstReports_concat reports diagnostic
    split at firsts
    · rename_i repeated
      rcases repeated with ⟨report, reported, same⟩
      have cut : ¬ (bag.limit ≤ 0 ∨ (firstReports reports).length ≤ bag.limit) := by
        intro enough
        rcases taken.exists_entry enough reported with ⟨entry, member, problem⟩
        exact notRecorded ⟨entry, member, problem.trans same⟩
      refine ⟨firsts ▸ taken.recorded, ?_⟩
      rw [firsts]
      exact ⟨nofun, fun enough => absurd enough cut⟩
    · refine ⟨?_, ?_⟩
      · rw [firsts, upTo_append long positive]
        exact taken.recorded
      · rw [firsts, List.length_append, List.length_singleton]
        exact ⟨nofun, fun enough => by dsimp only at enough; omega⟩
  · -- There is room, so nothing has been cut off and the problem is new.
    have notFull : ¬ (0 < bag.limit ∧ bag.limit ≤ (firstReports reports).length) := by
      rw [← taken.isFull_iff_length, room]
      exact Bool.false_ne_true
    have enough : bag.limit ≤ 0 ∨ (firstReports reports).length ≤ bag.limit := by omega
    have firsts := firstReports_concat reports diagnostic
    rw [if_neg] at firsts
    · have still : bag.limit ≤ 0 ∨
          (firstReports (reports ++ [diagnostic])).length ≤ bag.limit := by
        rw [firsts, List.length_append, List.length_singleton]
        omega
      rw [result]
      refine ⟨?_, ?_⟩
      · dsimp only
        rw [upTo_eq_self still, firsts, List.map_append, taken.recorded, upTo_eq_self enough]
        rfl
      · exact ⟨fun _ => still, fun _ => taken.dropped.mpr enough⟩
    · rintro ⟨report, reported, same⟩
      rcases taken.exists_entry enough reported with ⟨entry, member, problem⟩
      rw [isRecorded.mpr ⟨entry, member, problem.trans same⟩] at new
      cases new

end HasTaken

/-! ## Runs -/

/-- An empty bag after some reports, of which some may be no diagnostics. -/
def ofReports (file : String) (limit : Int) (reports : List (Option Diagnostic)) : Bag :=
  ({ file, limit } : Bag).receiveAll reports

/-- Whether a report is lost on a full bag that does not have its problem. -/
def turnsAway (bag : Bag) (report : Option Diagnostic) : Bool :=
  bag.isFull && report.any fun diagnostic =>
    bag.recorded.all (·.problem ≠ diagnostic.problem)

/-- How many of the reports to an empty bag are lost on a full one. -/
def countTurnedAway (file : String) (limit : Int) (reports : List (Option Diagnostic)) : Nat :=
  reports.zipIdx.countP fun (report, index) =>
    (ofReports file limit (reports.take index)).turnsAway report

/-- Every diagnostic among some reports has a code of the taxonomy. -/
def AreKnown (reports : List (Option Diagnostic)) : Prop :=
  ∀ diagnostic ∈ reports.reduceOption, diagnostic.code ∈ Code.taxonomy

section Runs

variable {file : String} {limit : Int}

theorem areKnown_concat {last : Option Diagnostic} :
    AreKnown (reports ++ [last]) ↔
      AreKnown reports ∧ ∀ diagnostic ∈ last, diagnostic.code ∈ Code.taxonomy := by
  unfold AreKnown
  rw [List.reduceOption_append, List.forall_mem_append]
  cases last <;> simp [List.reduceOption]

theorem ofReports_concat (reports : List (Option Diagnostic)) (last : Option Diagnostic) :
    ofReports file limit (reports ++ [last]) = (ofReports file limit reports).receive last := by
  unfold ofReports receiveAll
  rw [List.foldl_append]
  rfl

/-- The limit and the file of a bag stay. -/
theorem fixed_receive (bag : Bag) (report : Option Diagnostic) :
    (bag.receive report).limit = bag.limit ∧ (bag.receive report).file = bag.file := by
  cases report with
  | none => exact ⟨rfl, rfl⟩
  | some diagnostic =>
      unfold receive
      rcases report_cases bag diagnostic with ⟨_, result⟩ | ⟨_, _, result⟩ | ⟨_, _, result⟩
      all_goals
        rw [Option.elim_some, result]
        exact ⟨rfl, rfl⟩

theorem fixed_ofReports (file : String) (limit : Int) (reports : List (Option Diagnostic)) :
    (ofReports file limit reports).limit = limit ∧ (ofReports file limit reports).file = file := by
  induction reports using List.reverseRecOn with
  | nil => exact ⟨rfl, rfl⟩
  | append_singleton reports last induction =>
      rw [ofReports_concat, (fixed_receive _ _).1, (fixed_receive _ _).2]
      exact induction

/-- A run keeps what every report keeps. -/
theorem hasTaken_ofReports (file : String) (limit : Int) (known : AreKnown reports) :
    (ofReports file limit reports).HasTaken reports.reduceOption := by
  induction reports using List.reverseRecOn with
  | nil =>
      refine ⟨?_, ?_⟩
      · rw [List.reduceOption_nil, firstReports, upTo_eq_self (by simp; omega)]
        rfl
      · rw [List.reduceOption_nil, firstReports, List.length_nil]
        exact ⟨fun _ => Int.le_total limit 0, fun _ => rfl⟩
  | append_singleton reports last induction =>
      rw [areKnown_concat] at known
      have taken := induction known.1
      rw [ofReports_concat, List.reduceOption_append]
      cases last with
      | none =>
          rw [List.reduceOption_cons_of_none, List.reduceOption_nil, List.append_nil]
          exact taken
      | some diagnostic =>
          rw [List.reduceOption_cons_of_some, List.reduceOption_nil]
          exact taken.report known.1 (known.2 diagnostic rfl)

/-- A report is counted if and only if it is lost. -/
theorem dropped_receive {bag : Bag} (recorded : ∀ entry ∈ bag.recorded, entry.code ∈ Code.taxonomy)
    {report : Option Diagnostic}
    (known : ∀ diagnostic ∈ report, diagnostic.code ∈ Code.taxonomy) :
    (bag.receive report).dropped = bag.dropped + if bag.turnsAway report then 1 else 0 := by
  cases report with
  | none => simp [receive, turnsAway]
  | some diagnostic =>
      have isRecorded := isRecorded_iff recorded (known diagnostic rfl)
      have turned :
          bag.turnsAway (some diagnostic) = (bag.isFull && !bag.isRecorded diagnostic) := by
        unfold turnsAway
        rw [Option.any_some]
        congr 1
        rw [Bool.eq_iff_iff, Bool.not_eq_true', ← Bool.not_eq_true, isRecorded]
        simp
      unfold receive
      rw [Option.elim_some, turned]
      rcases report_cases bag diagnostic with
        ⟨old, result⟩ | ⟨new, full, result⟩ | ⟨new, room, result⟩
      · simp [result, old]
      · simp [result, new, full]
      · simp [result, room]

theorem dropped_ofReports (file : String) (limit : Int) (known : AreKnown reports) :
    (ofReports file limit reports).dropped = countTurnedAway file limit reports := by
  induction reports using List.reverseRecOn with
  | nil => rfl
  | append_singleton reports last induction =>
      have both := areKnown_concat.mp known
      have codes := (hasTaken_ofReports file limit both.1).codes both.1
      rw [ofReports_concat, dropped_receive codes both.2, induction both.1]
      unfold countTurnedAway
      rw [List.zipIdx_append, List.countP_append]
      congr 1
      · apply List.countP_congr
        rintro ⟨report, index⟩ member
        have bound := (List.mem_zipIdx member).2.1
        dsimp only
        rw [List.take_append_of_le_length (by omega)]
      · simp [List.countP_singleton]

end Runs

end Bag

/-! ## Order -/

namespace Position

theorem le_iff {left right : Position} :
    left.le right = true ↔
      left.line < right.line ∨ left.line = right.line ∧ left.column ≤ right.column := by
  unfold le
  rw [Bool.or_eq_true, Bool.and_eq_true, decide_eq_true_iff, beq_iff_eq, decide_eq_true_iff]

theorem le_trans {first second third : Position} (left : first.le second = true)
    (right : second.le third = true) : first.le third = true := by
  rw [le_iff] at *
  omega

theorem le_total (left right : Position) : (left.le right || right.le left) = true := by
  rw [Bool.or_eq_true, le_iff, le_iff]
  omega

end Position

/-- The entries of a list by line and then by column. Entries at one place keep their order. -/
structure IsByPosition {α : Type} (position : α → Position) (entries sorted : List α) :
    Prop where
  perm : sorted.Perm entries
  ordered : sorted.Pairwise fun earlier later =>
    (position earlier).line < (position later).line ∨
      (position earlier).line = (position later).line ∧
        (position earlier).column ≤ (position later).column
  stable : ∀ place,
    (sorted.filter fun entry => position entry = place) =
      entries.filter fun entry => position entry = place

theorem IsByPosition.map {α β : Type} {position : α → Position} {other : β → Position}
    {entries sorted : List α} (byPosition : IsByPosition position entries sorted)
    {transform : α → β} (same : ∀ entry, other (transform entry) = position entry) :
    IsByPosition other (entries.map transform) (sorted.map transform) := by
  refine ⟨byPosition.perm.map transform, ?_, ?_⟩
  · rw [List.pairwise_map]
    simp only [same]
    exact byPosition.ordered
  · intro place
    simp only [List.filter_map, Function.comp_def, same]
    rw [byPosition.stable place]

theorem Bag.sorted_byPosition (bag : Bag) :
    IsByPosition Diagnostic.position bag.recorded bag.sorted := by
  have trans : ∀ first second third : Diagnostic,
      first.position.le second.position = true → second.position.le third.position = true →
        first.position.le third.position = true :=
    fun _ _ _ => Position.le_trans
  have total : ∀ left right : Diagnostic,
      (left.position.le right.position || right.position.le left.position) = true :=
    fun left right => Position.le_total left.position right.position
  have perm : bag.sorted.Perm bag.recorded := List.mergeSort_perm _ _
  refine ⟨perm, ?_, ?_⟩
  · have ordered := List.pairwise_mergeSort trans total bag.recorded
    simp only [Position.le_iff] at ordered
    exact ordered
  · intro place
    -- What is at one place is in order already, so sorting has it as a sublist.
    have inOrder : (bag.recorded.filter fun entry => entry.position = place).Pairwise
        fun left right => left.position.le right.position = true := by
      apply List.pairwise_of_forall_mem_list
      intro left leftMember right rightMember
      have leftPlace := of_decide_eq_true (List.mem_filter.mp leftMember).2
      have rightPlace := of_decide_eq_true (List.mem_filter.mp rightMember).2
      rw [leftPlace, rightPlace, Position.le_iff]
      omega
    have sublist := List.sublist_mergeSort trans total inOrder List.filter_sublist
    have filtered := sublist.filter fun entry => decide (entry.position = place)
    rw [List.filter_filter] at filtered
    simp only [Bool.and_self] at filtered
    exact (filtered.eq_of_length (perm.filter _).length_eq.symm).symm

/-- Where an item of a report says that its diagnostic is. -/
def Report.Item.position (item : Report.Item) : Position :=
  ⟨item.line, item.column⟩

theorem Report.items_byPosition (bag : Bag) :
    IsByPosition Report.Item.position (bag.recorded.map .ofDiagnostic) (Report.items bag) :=
  bag.sorted_byPosition.map fun _ => rfl

/-! ## Main statement -/

/-- A bag that gets some reports records the first report of each problem, up to its limit, so
it records the first part of what it would record without one. It counts the reports of other
problems that find it full; there are none of them if and only if there is no limit or the bag
without it is small enough. Both the sorted diagnostics and the items of the report are what is
recorded, by position. -/
theorem Bag.keeps_first_reports (file : String) (limit : Int) (reports : List (Option Diagnostic))
    (known : AreKnown reports) :
    (ofReports file limit reports).recorded =
        upTo limit ((firstReports reports.reduceOption).map (.within file)) ∧
      (ofReports file limit reports).recorded = upTo limit (ofReports file 0 reports).recorded ∧
      (ofReports file limit reports).dropped = countTurnedAway file limit reports ∧
      ((ofReports file limit reports).dropped = 0 ↔
        limit ≤ 0 ∨ (ofReports file 0 reports).recorded.length ≤ limit) ∧
      IsByPosition Diagnostic.position (ofReports file limit reports).recorded
        (ofReports file limit reports).sorted ∧
      IsByPosition Report.Item.position
        ((ofReports file limit reports).recorded.map .ofDiagnostic)
        (Report.items (ofReports file limit reports)) := by
  have taken := hasTaken_ofReports file limit known
  have recorded := taken.recorded
  have dropped := taken.dropped
  rw [(fixed_ofReports file limit reports).1] at recorded dropped
  rw [(fixed_ofReports file limit reports).2, ← upTo_map] at recorded
  have unlimited : (ofReports file 0 reports).recorded =
      (firstReports reports.reduceOption).map (.within file) := by
    rw [(hasTaken_ofReports file 0 known).recorded, (fixed_ofReports file 0 reports).1,
      (fixed_ofReports file 0 reports).2]
    rfl
  refine ⟨recorded, ?_, dropped_ofReports file limit known, ?_, sorted_byPosition _,
    Report.items_byPosition _⟩
  · rw [recorded, unlimited]
  · rw [dropped, unlimited, List.length_map]

namespace Sample

def late : Diagnostic :=
  { code := .overflow, position := ⟨2, 3⟩, message := "value 300 overflows" }

def early : Diagnostic :=
  { code := .scope, position := ⟨1, 4⟩, message := "undeclared: name", file := "other" }

def laterToo : Diagnostic :=
  { code := .overflow, position := ⟨2, 3⟩, message := "value 400 overflows" }

/-- Three problems; the first and the last of them are reported twice. -/
def reports : List (Option Diagnostic) :=
  [some late, none, some late, some early, some laterToo, some laterToo]

end Sample

theorem Bag.keeps_first_reports_sample :
    AreKnown Sample.reports ∧
      (ofReports "unit" 2 Sample.reports).recorded =
        [{ Sample.late with file := "unit" }, Sample.early] ∧
      (ofReports "unit" 2 Sample.reports).dropped = 2 := by
  have known : AreKnown Sample.reports := by
    unfold AreKnown
    decide
  have kept := keeps_first_reports "unit" 2 Sample.reports known
  refine ⟨known, ?_, ?_⟩
  · rw [kept.1]
    rfl
  · rw [kept.2.2.1]
    decide +kernel

end ComptimeTyping
