import HyperSchema.Proofs.Prototype.Stages
import HyperSchema.Proofs.Slot.Compile

namespace HyperSchema.Prototype

variable {settings : Settings} {owner declaring : SchemaId} {slots : List Slot}

theorem checkNames_refuses (seen : List String) (names : List (String × SlotKind)) :
    Refuses (¬·.OfLineage) (checkNames settings owner declaring slots seen names) := by
  fun_induction checkNames settings owner declaring slots seen names with
  | case1 => exact .ok
  | case2 | case3 | case5 => exact .error id
  | case4 _ _ _ _ _ _ _ ih => exact ih
  | case6 _ _ _ _ _ _ _ ih => exact ih

theorem indexAliases_refuses (taken declared : List (String × String)) :
    Refuses (¬·.OfLineage) (indexAliases settings owner slots taken declared) := by
  fun_induction indexAliases settings owner slots taken declared with
  | case1 => exact .ok
  | case2 => exact .error id
  | case3 _ _ _ _ _ ih => exact ih

theorem checkLinkBinding_refuses (s : PropertySlot) :
    Refuses (¬·.OfLineage) (checkLinkBinding owner slots s) := by
  unfold checkLinkBinding
  split
  · exact .ok
  · split
    · exact .error id
    · split
      · exact .error id
      · exact .ok

theorem addLinkSlot_refuses (table : SlotTable) (d : LinkDeclaration) :
    Refuses (¬·.OfLineage) (addLinkSlot owner declaring table d) := by
  unfold addLinkSlot
  split
  · exact .ok
  · split
    · exact .error id
    · exact .map (LinkSlot.compile_refuses _ _)

theorem withNames_refuses (p : Prototype) (lineage : List Schema) :
    Refuses (¬·.OfLineage) (p.withNames lineage) := by
  have hkey (q : Prototype) (key : String) : Refuses (¬·.OfLineage) (q.addKey key) := by
    unfold addKey
    split
    · exact .ok
    · exact .error id
  exact .foldlM (fun q s => .bind (.foldlM hkey q s.keySlotNames) fun _ => .ok) p lineage

variable {c : Conventions}

theorem addValueSlot_refuses (table : SlotTable) (d : SlotDeclaration) :
    Refuses Failure.OfDeclarations (addValueSlot c owner declaring table d) := by
  unfold addValueSlot compileValueSlot
  split
  · exact .ok
  · refine .map ?_
    dsimp only
    split
    · exact .lift_of_imp (.map (CollectionSlot.compile_refuses _ _ _ _)) fun e he =>
        .inl ⟨e, rfl, he⟩
    · exact .map (PropertySlot.compile_refuses _ _ _)

/-- Once the bases have been found, nothing is wrong with the lineage. -/
theorem assemble_refuses (s : Schema) (bases : List Schema) :
    Refuses Failure.OfDeclarations (assemble c s bases) := by
  have hlift {α : Type} {x : Except CompileError α} (hx : Refuses (¬·.OfLineage) x) :
      Refuses Failure.OfDeclarations (liftFailure .compile x) :=
    .lift_of_imp hx fun e he => .inl ⟨e, rfl, he⟩
  have hmerge (table : SlotTable) (t : Schema) :
      Refuses Failure.OfDeclarations (merge c s.id table t) :=
    .bind (hlift (checkNames_refuses _ _)) fun _ =>
      .bind (.foldlM addValueSlot_refuses _ _) fun _ => hlift (.foldlM addLinkSlot_refuses _ _)
  exact .bind (.foldlM hmerge _ _) fun _ => .bind (hlift (indexAliases_refuses _ _)) fun _ =>
    .bind (hlift (.forM checkLinkBinding_refuses _)) fun _ => hlift (withNames_refuses _ _)

end HyperSchema.Prototype
