import Codemem.Sync.PushBodies

/-!
# Sizes of push bodies

A batch is filled up to the limit without the fields that the push adds, and the braces around an
empty list of ops are counted one byte short.  A body therefore stays within the limit when the
total of its batch leaves room for these bytes.  Whether it does is decided by the sizes of the ops
alone (`LeavesRoom`); halves of a batch are smaller than the batch, so no answer of the receiver
changes it (`push_bodies_within_limit_iff`).
-/

namespace Codemem

/-! ### Lengths of texts -/

@[simp] lemma utf8Length_append (s t : String) :
    utf8Length (s ++ t) = utf8Length s + utf8Length t := by
  simp [utf8Length, String.toList_append]

def joinedBytes (ops : List WireOp) : ℕ := utf8Length (joinComma (ops.map WireOp.json))

@[simp] lemma joinedBytes_nil : joinedBytes [] = 0 := rfl

lemma utf8Length_joinComma_cons (s : String) (rest : List String) :
    utf8Length (joinComma (s :: rest)) =
      utf8Length s + if rest.isEmpty then 0 else 1 + utf8Length (joinComma rest) := by
  cases rest with
  | nil => rfl
  | cons next rest =>
    have hcomma : utf8Length "," = 1 := by decide
    rw [joinComma.eq_3 s _ (List.cons_ne_nil next rest), utf8Length_append, utf8Length_append,
      hcomma]
    simp only [List.isEmpty_cons, Bool.false_eq_true, if_false]
    omega

lemma joinedBytes_cons (op : WireOp) (ops : List WireOp) :
    joinedBytes (op :: ops) = op.bytes + if ops.isEmpty then 0 else 1 + joinedBytes ops := by
  rw [joinedBytes, List.map_cons, utf8Length_joinComma_cons, List.isEmpty_map, joinedBytes,
    WireOp.bytes]

lemma joinedBytes_append (first second : List WireOp) :
    joinedBytes (first ++ second) = joinedBytes first + joinedBytes second +
      if first.isEmpty || second.isEmpty then 0 else 1 := by
  induction first with
  | nil => simp
  | cons op first ih =>
    rw [List.cons_append, joinedBytes_cons, joinedBytes_cons, ih]
    cases first with
    | nil =>
      cases second with
      | nil => simp
      | cons next second =>
        simp
        omega
    | cons next first =>
      cases second with
      | nil => simp
      | cons next' second =>
        simp
        omega

/-- The fields that a push adds take this many bytes, with the end of the body. -/
def pushFieldsBytes : ℕ := 63

lemma utf8Length_pushBody (ops : List WireOp) :
    utf8Length (pushBody ops) = wrapperOverhead + joinedBytes ops + pushFieldsBytes := by
  have hstart : utf8Length "\x7b\"ops\":[" = 8 := by decide
  have hend : utf8Length "]" = 1 := by decide
  have hfields : utf8Length pushFields = pushFieldsBytes := by decide +kernel
  rw [pushBody, utf8Length_append, utf8Length_append, utf8Length_append, hstart, hend, hfields,
    wrapperOverhead, joinedBytes]
  omega

lemma utf8Length_pushBody_le (first second : List WireOp) :
    utf8Length (pushBody first) ≤ utf8Length (pushBody (first ++ second)) ∧
      utf8Length (pushBody second) ≤ utf8Length (pushBody (first ++ second)) := by
  rw [utf8Length_pushBody, utf8Length_pushBody, utf8Length_pushBody, joinedBytes_append]
  omega

/-! ### The batches -/

/-- Filling batches with ops of these sizes: no total, of the open batch or of a new one, comes
closer to the limit than `room`. -/
def LeavesRoom (maxBytes room : ℕ) : Bool → ℕ → List ℕ → Prop
  | _, _, [] => True
  | isEmpty, total, size :: sizes =>
    let filled := total + if isEmpty then size else size + commaOverhead
    if filled ≤ maxBytes then
      filled + room ≤ maxBytes ∧ LeavesRoom maxBytes room false filled sizes
    else
      wrapperOverhead + size + room ≤ maxBytes ∧
        LeavesRoom maxBytes room false (wrapperOverhead + size) sizes

/-- From an open batch whose total is right, the loop makes batches that concatenate to the open one
and the rest of the ops; and they leave room when the open batch does and the filling does. -/
lemma foldlM_add {maxBytes : ℕ} (room : ℕ) {ops : List WireOp}
    (hfit : ∀ op ∈ ops, wrapperOverhead + op.bytes ≤ maxBytes) (s : ChunkState)
    (hbytes : s.currentBytes = wrapperOverhead + joinedBytes s.current) :
    ∃ batches, ((ops.foldlM (ChunkState.add maxBytes) s).map fun s =>
        if s.current.isEmpty then s.batches else s.batches ++ [s.current]) =
          .ok (s.batches ++ batches) ∧ batches.flatten = s.current ++ ops ∧
      ((∀ batch ∈ batches, wrapperOverhead + joinedBytes batch + room ≤ maxBytes) ↔
        (s.current ≠ [] → s.currentBytes + room ≤ maxBytes) ∧
          LeavesRoom maxBytes room s.current.isEmpty s.currentBytes (ops.map WireOp.bytes)) := by
  induction ops generalizing s with
  | nil =>
    by_cases hempty : s.current = []
    · refine ⟨[], ?_, by simp [hempty], by simp [hempty, LeavesRoom]⟩
      simp [hempty, Except.map, pure, Except.pure]
    · refine ⟨[s.current], ?_, by simp, ?_⟩
      · simp [hempty, Except.map, pure, Except.pure]
      · simp [hempty, LeavesRoom, hbytes]
  | cons op ops ih =>
    have hrest : ∀ op ∈ ops, wrapperOverhead + op.bytes ≤ maxBytes :=
      fun o ho => hfit o (List.mem_cons_of_mem _ ho)
    have hop := hfit op List.mem_cons_self
    by_cases hfill : s.currentBytes +
        (if s.current.isEmpty then op.bytes else op.bytes + commaOverhead) ≤ maxBytes
    · -- The op goes into the open batch.
      have hadd : s.add maxBytes op = .ok ⟨s.batches, s.current ++ [op], s.currentBytes +
          if s.current.isEmpty then op.bytes else op.bytes + commaOverhead⟩ := by
        simp only [ChunkState.add]
        rw [if_pos hfill]
      obtain ⟨batches, hrun, hflatten, hroom⟩ := ih hrest ⟨s.batches, s.current ++ [op],
        s.currentBytes + if s.current.isEmpty then op.bytes else op.bytes + commaOverhead⟩ (by
          rw [hbytes, joinedBytes_append, joinedBytes_cons]
          cases s.current with
          | nil => simp
          | cons first rest =>
            simp [commaOverhead]
            omega)
      refine ⟨batches, ?_, ?_, ?_⟩
      · rw [List.foldlM_cons, hadd]
        exact hrun
      · rw [hflatten, List.append_assoc, List.singleton_append]
      · rw [hroom, List.map_cons, LeavesRoom, if_pos hfill]
        have hopen : (s.current ++ [op]).isEmpty = false := by simp
        have hne : s.current ++ [op] ≠ [] := by simp
        rw [hopen]
        constructor
        · rintro ⟨htotal, hleaves⟩
          have htotal' : s.currentBytes +
              (if s.current.isEmpty then op.bytes else op.bytes + commaOverhead) + room ≤
                maxBytes := htotal hne
          exact ⟨fun _ => by omega, htotal', hleaves⟩
        · rintro ⟨-, htotal, hleaves⟩
          exact ⟨fun _ => htotal, hleaves⟩
    · -- The op opens a new batch; the open one is not empty, for the op alone fits.
      have hne : s.current ≠ [] := by
        intro hempty
        rw [hbytes, hempty] at hfill
        simp at hfill
        omega
      have hadd : s.add maxBytes op =
          .ok ⟨s.batches ++ [s.current], [op], wrapperOverhead + op.bytes⟩ := by
        simp only [ChunkState.add]
        rw [if_neg hfill, if_neg (by simpa using hne), if_neg (by omega)]
      obtain ⟨batches, hrun, hflatten, hroom⟩ := ih hrest
        ⟨s.batches ++ [s.current], [op], wrapperOverhead + op.bytes⟩ (by
          rw [joinedBytes_cons]
          simp)
      refine ⟨s.current :: batches, ?_, ?_, ?_⟩
      · rw [List.foldlM_cons, hadd]
        refine hrun.trans ?_
        rw [List.append_assoc, List.singleton_append]
      · rw [List.flatten_cons, hflatten, List.singleton_append]
      · rw [List.forall_mem_cons, hroom, List.map_cons, LeavesRoom, if_neg hfill, hbytes]
        simp [hne]

lemma chunkOpsBySize_spec {maxBytes : ℕ} (room : ℕ) {ops : List WireOp}
    (hfit : ∀ op ∈ ops, wrapperOverhead + op.bytes ≤ maxBytes) :
    ∃ batches, chunkOpsBySize ops maxBytes = .ok batches ∧ batches.flatten = ops ∧
      ((∀ batch ∈ batches, wrapperOverhead + joinedBytes batch + room ≤ maxBytes) ↔
        LeavesRoom maxBytes room true wrapperOverhead (ops.map WireOp.bytes)) := by
  obtain ⟨batches, hrun, hflatten, hroom⟩ :=
    foldlM_add room hfit ⟨[], [], wrapperOverhead⟩ rfl
  refine ⟨batches, hrun, hflatten, ?_⟩
  simpa using hroom

/-! ### The bodies -/

lemma body_le_of_mem_sent {ops : List WireOp} {sent : List String} {body : String}
    (hbody : body ∈ sent ++ [pushBody ops]) :
    body ∈ sent ∨ utf8Length body ≤ utf8Length (pushBody ops) := by
  rcases List.mem_append.mp hbody with hbody | hbody
  · exact .inl hbody
  · exact .inr (List.mem_singleton.mp hbody ▸ le_rfl)

/-- Every body a push of a batch sends is at most as large as that of the whole batch. -/
lemma pushOps_body_le (server : PushServer) (splits : ℕ) (ops : List WireOp)
    (sent : List String) :
    ∀ body ∈ (pushOps server splits ops sent).1,
      body ∈ sent ∨ utf8Length body ≤ utf8Length (pushBody ops) := by
  induction splits generalizing ops sent with
  | zero =>
    unfold pushOps
    split_ifs
    · exact fun body hbody => .inl hbody
    · exact fun body hbody => body_le_of_mem_sent hbody
  | succ splits ih =>
    intro body hbody
    unfold pushOps at hbody
    split_ifs at hbody with hempty
    · exact .inl hbody
    dsimp only at hbody
    split_ifs at hbody
    · exact body_le_of_mem_sent hbody
    · -- The halves are parts of the batch.
      have hhalves := utf8Length_pushBody_le (ops.take (ops.length / 2))
        (ops.drop (ops.length / 2))
      rw [List.take_append_drop] at hhalves
      have hfirst := ih (ops.take (ops.length / 2)) (sent ++ [pushBody ops])
      cases hrun : pushOps server splits (ops.take (ops.length / 2)) (sent ++ [pushBody ops]) with
      | mk sent' outcome =>
        rw [hrun] at hbody hfirst
        have hfrom : ∀ body ∈ sent', body ∈ sent ∨
            utf8Length body ≤ utf8Length (pushBody ops) := by
          intro body hbody
          rcases hfirst body hbody with hsent | hle
          · exact body_le_of_mem_sent hsent
          · exact .inr (hle.trans hhalves.1)
        cases outcome with
        | error message => exact hfrom body hbody
        | ok done =>
          rcases ih (ops.drop (ops.length / 2)) sent' body hbody with hsent | hle
          · exact hfrom body hsent
          · exact .inr (hle.trans hhalves.2)
    · exact body_le_of_mem_sent hbody

lemma pushBatches_body_le (server : PushServer) (batches : List (List WireOp))
    (sent : List String) :
    ∀ body ∈ (pushBatches server batches sent).1,
      body ∈ sent ∨ ∃ batch ∈ batches, utf8Length body ≤ utf8Length (pushBody batch) := by
  induction batches generalizing sent with
  | nil => exact fun body hbody => .inl hbody
  | cons batch batches ih =>
    intro body hbody
    unfold pushBatches at hbody
    have hfirst := pushOps_body_le server maxPushSplitDepth batch sent
    cases hrun : pushOps server maxPushSplitDepth batch sent with
    | mk sent' outcome =>
      rw [hrun] at hbody hfirst
      have hfrom : ∀ body ∈ sent', body ∈ sent ∨
          ∃ b ∈ batch :: batches, utf8Length body ≤ utf8Length (pushBody b) := by
        intro body hbody
        exact (hfirst body hbody).imp_right fun hle => ⟨batch, List.mem_cons_self, hle⟩
      cases outcome with
      | error message => exact hfrom body hbody
      | ok done =>
        rcases ih sent' body hbody with hsent | ⟨b, hb, hle⟩
        · exact hfrom body hsent
        · exact .inr ⟨b, List.mem_cons_of_mem _ hb, hle⟩

/-- A receiver that accepts everything. -/
def acceptingServer : PushServer := fun _ _ => ⟨200, true, none⟩

lemma pushOps_accepting (splits : ℕ) {ops : List WireOp} (hops : ops ≠ []) (sent : List String) :
    pushOps acceptingServer splits ops sent = (sent ++ [pushBody ops], .ok ()) := by
  have hempty : ops.isEmpty = false := by simpa using hops
  cases splits with
  | zero => simp [pushOps, hempty, acceptingServer, PushAnswer.accepted]
  | succ splits => simp [pushOps, hempty, acceptingServer, PushAnswer.accepted]

lemma pushBatches_accepting (batches : List (List WireOp)) (sent : List String) :
    sent ⊆ (pushBatches acceptingServer batches sent).1 ∧ ∀ batch ∈ batches, batch ≠ [] →
      pushBody batch ∈ (pushBatches acceptingServer batches sent).1 := by
  induction batches generalizing sent with
  | nil => exact ⟨List.Subset.refl _, fun _ h => absurd h List.not_mem_nil⟩
  | cons batch batches ih =>
    by_cases hempty : batch = []
    · have hnone : pushOps acceptingServer maxPushSplitDepth batch sent = (sent, .ok ()) := by
        rw [hempty]
        rfl
      unfold pushBatches
      rw [hnone]
      obtain ⟨hsub, hrest⟩ := ih sent
      refine ⟨hsub, fun b hb hne => ?_⟩
      rcases List.mem_cons.mp hb with rfl | hb
      · exact absurd hempty hne
      · exact hrest b hb hne
    · unfold pushBatches
      rw [pushOps_accepting maxPushSplitDepth hempty]
      obtain ⟨hsub, hrest⟩ := ih (sent ++ [pushBody batch])
      refine ⟨fun b hb => hsub (List.mem_append_left _ hb), fun b hb hne => ?_⟩
      rcases List.mem_cons.mp hb with rfl | hb
      · exact hsub (List.mem_append_right _ (List.mem_singleton_self _))
      · exact hrest b hb hne

lemma pushOutbound_within_iff {ops : List WireOp}
    (hfit : ∀ op ∈ ops, wrapperOverhead + op.bytes ≤ maxSyncBodyBytes) :
    (∀ server, ∀ body ∈ (pushOutbound server ops).1, utf8Length body ≤ maxSyncBodyBytes) ↔
      LeavesRoom maxSyncBodyBytes pushFieldsBytes true wrapperOverhead
        (ops.map WireOp.bytes) := by
  obtain ⟨batches, hchunks, -, hroom⟩ := chunkOpsBySize_spec pushFieldsBytes hfit
  have hrun : ∀ server, pushOutbound server ops = pushBatches server batches [] := by
    intro server
    rw [pushOutbound, hchunks]
  rw [← hroom]
  constructor
  · intro h batch hbatch
    by_cases hempty : batch = []
    · rw [hempty, joinedBytes_nil]
      decide
    · have hsent := (pushBatches_accepting batches []).2 batch hbatch hempty
      have hle := h acceptingServer (pushBody batch) (by rw [hrun]; exact hsent)
      rwa [utf8Length_pushBody] at hle
  · intro h server body hbody
    rw [hrun] at hbody
    rcases pushBatches_body_le server batches [] body hbody with hnone | ⟨batch, hbatch, hle⟩
    · cases hnone
    · rw [utf8Length_pushBody] at hle
      exact hle.trans (h batch hbatch)

/-- An op whose payload is `n` letters. -/
def payloadOp (n : ℕ) : WireOp :=
  ⟨"op", "memory_item", "key", "upsert", some (String.ofList (List.replicate n 'a')), 1,
    "2026-01-01T00:00:00Z", "dev", "dev", "2026-01-01T00:00:00Z", none⟩

lemma flatMap_jsonChar_replicate (n : ℕ) :
    (List.replicate n 'a').flatMap jsonChar = List.replicate n 'a' := by
  have hletter : jsonChar 'a' = ['a'] := by decide
  induction n with
  | zero => rfl
  | succ n ih => rw [List.replicate_succ, List.flatMap_cons, hletter, ih, List.singleton_append]

lemma utf8Length_letters (n : ℕ) : utf8Length (String.ofList (List.replicate n 'a')) = n := by
  have hletter : Char.utf8Size 'a' = 1 := by decide
  rw [utf8Length, String.toList_ofList, List.map_replicate, hletter, List.sum_replicate,
    nsmul_eq_mul, Nat.cast_id, Nat.mul_one]

lemma payloadOp_bytes (n : ℕ) : (payloadOp n).bytes = 247 + n := by
  have hpayload : utf8Length (jsonString (String.ofList (List.replicate n 'a'))) =
      utf8Length (jsonString "") + n := by
    have hquotes : utf8Length (jsonString "") = utf8Length "\"" + utf8Length "\"" := by decide
    rw [hquotes, jsonString, String.toList_ofList, flatMap_jsonChar_replicate, utf8Length_append,
      utf8Length_append, utf8Length_letters]
    omega
  have hzero : (payloadOp 0).bytes = 247 := by decide +kernel
  rw [← hzero]
  unfold WireOp.bytes WireOp.json payloadOp jsonStringOrNull
  simp only [utf8Length_append, hpayload, List.replicate_zero, String.ofList_nil]
  generalize utf8Length = f
  omega

lemma exists_op_of_bytes {n : ℕ} (hn : 247 ≤ n) : ∃ op : WireOp, op.bytes = n := by
  refine ⟨payloadOp (n - 247), ?_⟩
  rw [payloadOp_bytes]
  omega

end Codemem
