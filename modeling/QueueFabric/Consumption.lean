import QueueFabric.Messages

/-!
Exact consumption. No reader of the protocol looks beyond the bytes it takes, so
an accepted body has no accepted truncation and no accepted continuation.
-/

namespace QueueFabric

open Wire

/-- No accepted input is a strict prefix of another. -/
def ConsumesExactly {α : Type} (decode : Bytes → Except Status α) : Prop :=
  ∀ data, (decode data).isOk = true →
    (∀ short, short <+: data → short ≠ data → (decode short).isOk = false) ∧
      ∀ longer, data <+: longer → longer ≠ data → (decode longer).isOk = false

theorem exhausts_of_decodeWhole {α : Type} {get : Get (Except Status α)} {data : Bytes}
    {malformed : String} (accepted : (decodeWhole get data malformed).isOk = true) :
    (get ⟨data, false⟩).2.failed = false ∧ (get ⟨data, false⟩).2.rest = [] := by
  rw [decodeWhole] at accepted
  split at accepted
  · cases accepted
  · rename_i value reader read
    rw [read]
    split at accepted
    · cases accepted
    · rename_i whole
      simpa using whole

theorem consumesExactly_decodeWhole {α : Type} {get : Get (Except Status α)} (steady : Steady get)
    (malformed : String) : ConsumesExactly fun data => decodeWhole get data malformed := by
  -- Of two accepted inputs neither continues the other.
  have apart : ∀ short longer, short <+: longer → longer ≠ short →
      (decodeWhole get short malformed).isOk = true →
        (decodeWhole get longer malformed).isOk = false := by
    rintro short longer ⟨more, rfl⟩ differ accepted
    have some : more ≠ [] := by
      rintro rfl
      exact differ (List.append_nil short)
    have left := steady.leaves (exhausts_of_decodeWhole accepted).1 some
    by_contra also
    exact left (exhausts_of_decodeWhole (Bool.eq_true_of_not_eq_false also)).2
  intro data accepted
  refine ⟨fun short begins differ => ?_, fun longer continues differ => ?_⟩
  · by_contra also
    have refused := apart short data begins differ.symm (Bool.eq_true_of_not_eq_false also)
    exact Bool.false_ne_true (refused.symm.trans accepted)
  · exact apart data longer continues differ accepted

/-! Mutations. -/

theorem steady_getThresholds : Steady getThresholds := by
  refine steady_getU64.bind fun _ => steady_getU64.bind fun _ => ?_
  refine steady_getU64.bind fun _ => steady_getU64.bind fun _ => ?_
  exact steady_getI64.bind fun _ => steady_pure _

theorem steady_getClassBinding : Steady getClassBinding :=
  (steady_getIdent _).bind fun _ => (steady_getCounter _).bind fun _ => steady_pure _

theorem steady_getPoolRef : Steady getPoolRef := by
  refine (steady_getIdent _).bind fun _ => (steady_getCounter _).bind fun _ => ?_
  exact steady_getU64.bind fun _ => steady_pure _

theorem steady_getOccupancySample : Steady getOccupancySample := by
  refine (steady_getIdent _).bind fun _ => (steady_getCounter _).bind fun _ => ?_
  refine steady_getU64.bind fun _ => steady_getU64.bind fun _ => ?_
  refine (steady_getCounter _).bind fun _ => (steady_getCounter _).bind fun _ => ?_
  exact steady_getI64.bind fun _ => steady_getProvenance.bind fun _ => steady_pure _

theorem steady_getDeclare : Steady getDeclare := by
  refine (steady_getIdent _).bind fun _ => (steady_getString _).bind fun _ => ?_
  refine steady_getU32.bind fun _ => steady_getClassBinding.bind fun _ => ?_
  exact steady_getPoolRef.bind fun _ => steady_getThresholds.bind fun _ => steady_pure _

theorem steady_getDrainEvidence : Steady getDrainEvidence := by
  refine steady_getU32.bind fun records => steady_failing.bind fun _ => ?_
  split
  · exact steady_pure _
  · refine (steady_getEvidenceBody records).bind fun _ => steady_failing.bind fun _ => ?_
    split
    · exact steady_pure _
    · exact steady_pure _

/-- Whichever tag was read, only the payload's own bytes decide what is read of it. -/
theorem steady_getPayload (tag : UInt8) : Steady (getPayload tag) := by
  rw [getPayload]
  split
  · exact steady_pure _
  · exact steady_getDeclare.bind fun _ => steady_pure _
  · exact steady_getClassBinding.bind fun _ => steady_pure _
  · exact steady_getThresholds.bind fun _ => steady_pure _
  · exact (steady_getIdent _).bind fun _ => steady_pure _
  · exact steady_getOccupancySample.bind fun _ => steady_pure _
  · exact steady_getDrainEvidence.bind fun _ => steady_pure _
  · exact steady_getBool.bind fun _ => (steady_getString _).bind fun _ => steady_pure _
  · exact steady_getBackendApplied.bind fun _ => steady_pure _
  · refine (steady_getIdent _).bind fun _ => (steady_getIdent _).bind fun _ => ?_
    exact (steady_getCounter _).bind fun _ => steady_pure _
  · exact steady_pure _

theorem steady_getMutation : Steady getMutation := by
  refine steady_getAttempt.bind fun _ => steady_getU16.bind fun _ => ?_
  refine (steady_getIdent _).bind fun _ => (steady_getCounter _).bind fun _ => ?_
  refine (steady_getCounter _).bind fun _ => (steady_getIdent _).bind fun _ => ?_
  refine steady_getProvenance.bind fun _ => steady_getU8.bind fun tag => ?_
  refine steady_failing.bind fun _ => ?_
  split
  · exact steady_pure _
  · exact (steady_getPayload tag).bind fun _ => steady_pure _

/-! Messages. -/

theorem steady_getBytes (limit : Nat) : Steady (getBytes limit) := by
  refine steady_getU32.bind fun length => steady_failing.bind fun _ => ?_
  split
  · exact steady_latch.bind fun _ => steady_pure _
  · exact steady_getRaw _

theorem steady_getHello : Steady getHello := by
  refine steady_getU8.bind fun _ => (steady_getIdent _).bind fun _ => ?_
  refine (steady_getCounter _).bind fun _ => steady_getU64.bind fun _ => ?_
  refine steady_getU64.bind fun _ => (steady_getCounter _).bind fun _ => ?_
  exact (steady_getString _).bind fun _ => steady_pure _

theorem steady_getHelloAck : Steady getHelloAck := by
  refine steady_getBool.bind fun _ => steady_getU16.bind fun _ => ?_
  refine (steady_getString _).bind fun _ => (steady_getCounter _).bind fun _ => ?_
  exact (steady_getCounter _).bind fun _ => steady_pure _

theorem steady_getHeartbeat : Steady getHeartbeat :=
  (steady_getCounter _).bind fun _ => (steady_getCounter _).bind fun _ => steady_pure _

theorem steady_getMutationResponse : Steady getMutationResponse := by
  refine steady_getAttempt.bind fun _ => (steady_getIdent _).bind fun _ => ?_
  refine steady_getU16.bind fun _ => (steady_getString _).bind fun _ => ?_
  exact (steady_getCounter _).bind fun _ => steady_getBool.bind fun _ => steady_pure _

theorem steady_getFenceNotice : Steady getFenceNotice := by
  refine (steady_getIdent _).bind fun _ => (steady_getCounter _).bind fun _ => ?_
  exact steady_getU64.bind fun _ => (steady_getString _).bind fun _ => steady_pure _

theorem steady_getStats : Steady getStats := by
  refine (steady_getCounter _).bind fun _ => (steady_getCounter _).bind fun _ => ?_
  iterate 19 refine steady_getU64.bind fun _ => ?_
  exact steady_pure _

theorem steady_getErrorMessage : Steady getErrorMessage :=
  steady_getU16.bind fun _ => (steady_getString _).bind fun _ => steady_pure _

theorem steady_getMessageBody (type : MessageType) (sequence : UInt32) :
    Steady (getMessageBody type sequence) := by
  cases type with
  | hello =>
      refine steady_getHello.bind fun _ => ?_
      split
      · exact steady_pure _
      · exact steady_pure _
  | helloAck => exact steady_getHelloAck.bind fun _ => steady_pure _
  | heartbeat => exact steady_getHeartbeat.bind fun _ => steady_pure _
  | occupancyBatch =>
      exact steady_getSection steady_getOccupancySample _ _ fun _ => steady_pure _
  | mutation =>
      -- The nested record is decoded from its own bytes, outside the reader.
      refine (steady_getBytes _).bind fun _ => steady_failing.bind fun _ => ?_
      split
      · exact steady_pure _
      · exact steady_pure _
  | mutationResponse => exact steady_getMutationResponse.bind fun _ => steady_pure _
  | epochAdvance => exact (steady_getCounter _).bind fun _ => steady_pure _
  | fenceNotice => exact steady_getFenceNotice.bind fun _ => steady_pure _
  | statsRequest => exact steady_pure _
  | statsResponse => exact steady_getStats.bind fun _ => steady_pure _
  | shutdown => exact (steady_getString _).bind fun _ => steady_pure _
  | errorMessage => exact steady_getErrorMessage.bind fun _ => steady_pure _
  | none => exact steady_pure _
  | unlisted offset => exact steady_pure _

theorem steady_getMessage : Steady getMessage := by
  refine steady_getU16.bind fun type => steady_getU32.bind fun sequence => ?_
  refine steady_failing.bind fun _ => ?_
  split
  · exact steady_pure _
  · exact steady_getMessageBody _ _

/-- Truncated bodies and bodies with trailing bytes are refused, whatever they hold. -/
theorem bodies_consumed_exactly : ConsumesExactly decodeMessage ∧ ConsumesExactly decodeMutation :=
  ⟨consumesExactly_decodeWhole steady_getMessage _,
    consumesExactly_decodeWhole steady_getMutation _⟩

end QueueFabric
