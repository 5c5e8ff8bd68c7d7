import TrafficLimitd.RtnlProgram

set_option autoImplicit false

/- `rtnl_recv`: the size it peeks at and the buffer it takes the datagram into. -/
namespace TrafficLimitd.Rtnl

theorem intOf_eq {length : Nat} (small : length < 2 ^ 31) : intOf length = length := by
  have word : (BitVec.ofNat 32 length).toNat = length := by
    rw [BitVec.toNat_ofNat]
    omega
  rw [intOf, BitVec.toInt_eq_toNat_cond, word, if_pos (by omega)]

/-- The failures of `recvfrom` that are tried again. -/
def Socket.Interrupted (socket : Socket) : Prop :=
  ∀ peek, ∀ errno ∈ socket.failures peek, errno = Errno.eintr ∨ errno = Errno.eagain

/-- However often the call is interrupted, the loop returns what the first call that is
not interrupted gives. -/
theorem rtnlRecvfromCalls_interrupted (failures : List Int) (last : Receipt)
    (interrupted : ∀ errno ∈ failures, errno = Errno.eintr ∨ errno = Errno.eagain) :
    rtnlRecvfromCalls (failures.map (fun errno => ⟨-1, errno, []⟩) ++ [last]) =
      rtnlRecvfromCalls [last] := by
  induction failures with
  | nil => rfl
  | cons errno rest ih =>
      rw [List.forall_mem_cons] at interrupted
      rw [List.map_cons, List.cons_append, rtnlRecvfromCalls,
        if_pos ⟨Int.negSucc_lt_zero 0, interrupted.1⟩]
      exact ih interrupted.2

theorem rtnlRecvfromCalls_received {last : Receipt} (received : 0 < last.rc) :
    rtnlRecvfromCalls [last] = some (.ok (last.rc, last.stored)) := by
  have positive : ¬ last.rc < 0 := by omega
  have nonzero : last.rc ≠ 0 := by omega
  simp only [rtnlRecvfromCalls, positive, false_and, nonzero, ↓reduceIte]

theorem rtnlRecvfromCalls_nothing {last : Receipt} (nothing : last.rc = 0) :
    rtnlRecvfromCalls [last] = some (.error (-Errno.enodata)) := by
  simp only [rtnlRecvfromCalls, nothing, Int.lt_irrefl, false_and, ↓reduceIte]

/-- Only a positive `int` is returned as a length. -/
theorem rtnlRecvfromCalls_ok {last : Receipt} {result : Int × List UInt8}
    (ok : rtnlRecvfromCalls [last] = some (.ok result)) :
    0 < last.rc ∧ result = (last.rc, last.stored) := by
  unfold rtnlRecvfromCalls at ok
  split at ok
  · cases ok
  · split at ok
    · cases ok
    · split at ok
      · cases ok
      · cases ok
        exact ⟨by omega, rfl⟩

section Receive

variable {socket : Socket}

theorem calls_interrupted (interrupted : socket.Interrupted) (peek : Bool) (length : Nat) :
    rtnlRecvfromCalls (socket.calls peek length) =
      rtnlRecvfromCalls [⟨intOf (if peek then socket.datagram.length
        else min length socket.datagram.length), socket.errno, socket.datagram.take length⟩] :=
  rtnlRecvfromCalls_interrupted _ _ (interrupted peek)

/-- The peek finds the size of the datagram, if that is positive as an `int`. -/
theorem rtnlRecvCalls_peeked (interrupted : socket.Interrupted)
    (positive : 0 < intOf socket.datagram.length) (malloc : Bool) :
    rtnlRecvCalls socket malloc =
      if malloc = false then some (.error (-Errno.enomem))
      else rtnlRecvfromCalls (socket.calls false
        (if intOf socket.datagram.length < minBufLen then minBufLen else 0)) := by
  unfold rtnlRecvCalls
  rw [calls_interrupted interrupted, rtnlRecvfromCalls_received positive]
  rfl

/-- Without a buffer nothing is received. -/
theorem calls_empty_buffer (interrupted : socket.Interrupted) :
    rtnlRecvfromCalls (socket.calls false 0) = some (.error (-Errno.enodata)) := by
  rw [calls_interrupted interrupted]
  apply rtnlRecvfromCalls_nothing
  show intOf (min 0 socket.datagram.length) = 0
  rw [Nat.zero_min]
  rfl

/-- A buffer that is large enough takes the whole datagram. -/
theorem calls_whole (interrupted : socket.Interrupted) (present : socket.datagram ≠ [])
    (short : socket.datagram.length < minBufLen) :
    rtnlRecvfromCalls (socket.calls false minBufLen) =
      some (.ok (socket.datagram.length, socket.datagram)) := by
  have size := intOf_eq (Nat.lt_trans short (by decide))
  have positive := List.length_pos_iff.mpr present
  have fits := Nat.le_of_lt short
  rw [calls_interrupted interrupted, if_neg Bool.false_ne_true, Nat.min_eq_right fits,
    List.take_of_length_le fits, size]
  apply rtnlRecvfromCalls_received
  show (0 : Int) < socket.datagram.length
  omega

/-- No more bytes are returned than the buffer holds. -/
theorem calls_at_most {length : Nat} {result : Int × List UInt8}
    (interrupted : socket.Interrupted)
    (ok : rtnlRecvfromCalls (socket.calls false length) = some (.ok result)) :
    result.2.length ≤ length := by
  rw [calls_interrupted interrupted] at ok
  rw [(rtnlRecvfromCalls_ok ok).2]
  exact List.length_take_le _ _

/-- The buffer has at most the minimum length, so no larger datagram is returned. -/
theorem rtnlRecvCalls_at_most {malloc : Bool} {result : Int × List UInt8}
    (interrupted : socket.Interrupted)
    (ok : rtnlRecvCalls socket malloc = some (.ok result)) : result.2.length ≤ minBufLen := by
  unfold rtnlRecvCalls at ok
  split at ok
  · cases ok
  · cases ok
  · dsimp only at ok
    split at ok
    · cases ok
    · have bound := calls_at_most interrupted ok
      split at bound
      · exact bound
      · omega

/-- `rtnl_recv` returns the full size, with all bytes. -/
def Whole (socket : Socket) : Prop :=
  rtnlRecvCalls socket true = some (.ok (socket.datagram.length, socket.datagram))

theorem whole_iff (interrupted : socket.Interrupted) (present : socket.datagram ≠ []) :
    Whole socket ↔ socket.datagram.length < minBufLen := by
  have positive := List.length_pos_iff.mpr present
  constructor
  · intro whole
    have bound : socket.datagram.length ≤ minBufLen := rtnlRecvCalls_at_most interrupted whole
    apply Nat.lt_of_le_of_ne bound
    -- At the minimum itself the length is not stored.
    intro boundary
    have size : intOf socket.datagram.length = minBufLen := by
      rw [boundary]
      rfl
    rw [Whole, rtnlRecvCalls_peeked interrupted (by rw [size]; decide), if_neg (by decide), size,
      if_neg (Int.lt_irrefl _), calls_empty_buffer interrupted] at whole
    cases whole
  · intro short
    have size := intOf_eq (Nat.lt_trans short (by decide))
    rw [Whole, rtnlRecvCalls_peeked interrupted (by omega), if_neg (by decide), size,
      if_pos (by omega)]
    exact calls_whole interrupted present short

end Receive

/-- `rtnl_recv` on a datagram that is received without interruption. -/
theorem rtnlRecv_ok (kernel : Kernel) {datagram : List UInt8}
    (received : kernel.recvfrom = .ok datagram) :
    rtnlRecv kernel =
      if datagram.length = 0 then .error (-Errno.enodata)
      else if kernel.malloc = false then .error (-Errno.enomem)
      else if datagram.length < minBufLen then .ok datagram
      else .error (-Errno.enodata) := by
  unfold rtnlRecv
  rw [received, rtnlRecvfrom]
  by_cases empty : datagram.length = 0
  · rw [if_pos empty, if_pos empty]
    rfl
  · rw [if_neg empty, if_neg empty]
    cases allocated : kernel.malloc with
    | false => rfl
    | true =>
        by_cases short : datagram.length < minBufLen
        · have all : datagram.take minBufLen = datagram :=
            List.take_of_length_le (Nat.le_of_lt short)
          simp [rtnlRecvfrom, bind, Except.bind, Except.map, short, all, empty]
        · simp [rtnlRecvfrom, bind, Except.bind, Except.map, short]

/-- The interrupted calls make no difference: for a datagram whose size is an `int` the
return value of `rtnl_recv` is that without them. -/
theorem rtnlRecvCalls_eq (socket : Socket) (interrupted : socket.Interrupted)
    (size : socket.datagram.length < 2 ^ 31) (kernel : Kernel)
    (received : kernel.recvfrom = .ok socket.datagram) :
    rtnlRecvCalls socket kernel.malloc =
      some ((rtnlRecv kernel).map fun bytes => ((bytes.length : Int), bytes)) := by
  have int := intOf_eq size
  rw [rtnlRecv_ok kernel received]
  by_cases empty : socket.datagram.length = 0
  · have none : rtnlRecvfromCalls (socket.calls true 0) = some (.error (-Errno.enodata)) := by
      rw [calls_interrupted interrupted]
      apply rtnlRecvfromCalls_nothing
      show intOf socket.datagram.length = 0
      omega
    rw [if_pos empty, rtnlRecvCalls, none]
    rfl
  · rw [if_neg empty, rtnlRecvCalls_peeked interrupted (by omega)]
    cases kernel.malloc with
    | false => rfl
    | true =>
        rw [if_neg Bool.false_ne_true.symm, if_neg Bool.false_ne_true.symm, int]
        by_cases short : socket.datagram.length < minBufLen
        · rw [if_pos (by omega), if_pos short, calls_whole interrupted _ short]
          · rfl
          · exact List.ne_nil_of_length_pos (Nat.pos_of_ne_zero empty)
        · rw [if_neg (by omega), if_neg short, calls_empty_buffer interrupted]
          rfl

/-- The loop of `rtnl_talk` gets to see all of the datagram. -/
def TalkWhole (datagram : List UInt8) : Prop :=
  ∀ (handle : Handle) (request : Request) (wantsAnswer : Bool) (senderPid : UInt32),
    (rtnlTalk handle request wantsAnswer
        ⟨.ok (), .ok datagram, true, sizeofSockaddrNl, senderPid⟩).2.2 =
      scan ⟨handle.localPid, handle.seq, senderPid, wantsAnswer⟩ (datagram.length + 1) 0 datagram

theorem talkWhole_of_short {datagram : List UInt8} (present : datagram ≠ [])
    (short : datagram.length < minBufLen) : TalkWhole datagram := by
  intro handle request wantsAnswer senderPid
  have nonempty : ¬ datagram.length = 0 := by
    intro zero
    exact present (List.length_eq_zero_iff.mp zero)
  have received := rtnlRecv_ok ⟨.ok (), .ok datagram, true, sizeofSockaddrNl, senderPid⟩ rfl
  simp only [nonempty, short, Bool.true_eq_false, ↓reduceIte] at received
  simp only [rtnlTalk, received, ne_eq, not_true_eq_false, ↓reduceIte]

/-- The whole datagram is returned exactly if it is shorter than the minimum length of
the buffer; and without memory for it that is what is returned. -/
theorem recv_whole_iff (socket : Socket) (interrupted : socket.Interrupted)
    (present : socket.datagram ≠ []) :
    (Whole socket ∧ TalkWhole socket.datagram ↔ socket.datagram.length < minBufLen) ∧
      (0 < intOf socket.datagram.length →
        rtnlRecvCalls socket false = some (.error (-Errno.enomem))) := by
  have whole := whole_iff interrupted present
  refine ⟨⟨fun both => whole.mp both.1, fun short => ?_⟩, fun positive => ?_⟩
  · exact ⟨whole.mpr short, talkWhole_of_short present short⟩
  · rw [rtnlRecvCalls_peeked interrupted positive, if_pos rfl]

/-- A datagram of one message, after an interruption and a spurious wake-up. -/
theorem recv_whole_iff_header :
    Whole ⟨List.replicate 16 0, fun peek => if peek then [4, 11] else [4], 4⟩ :=
  ((recv_whole_iff ⟨List.replicate 16 0, fun peek => if peek then [4, 11] else [4], 4⟩
    (by intro peek; cases peek <;> decide) (by decide)).1.mpr (by decide)).1

theorem boundary_lost (datagram : List UInt8) (size : datagram.length = minBufLen) :
    rtnlRecvCalls ⟨datagram, fun _ => [], 0⟩ true = some (.error (-Errno.enodata)) ∧
      ¬ Whole ⟨datagram, fun _ => [], 0⟩ ∧
      (rtnlTalk ⟨7, 3⟩ ⟨1, 0⟩ true ⟨.ok (), .ok datagram, true, sizeofSockaddrNl, 0⟩).2.2 =
        some ⟨-Errno.enodata, none⟩ := by
  have received : rtnlRecv ⟨.ok (), .ok datagram, true, sizeofSockaddrNl, 0⟩ =
      .error (-Errno.enodata) := by
    rw [rtnlRecv_ok _ rfl, size]
    rfl
  have lost : rtnlRecvCalls ⟨datagram, fun _ => [], 0⟩ true = some (.error (-Errno.enodata)) := by
    have same := rtnlRecvCalls_eq ⟨datagram, fun _ => [], 0⟩
      (fun _ _ failed => absurd failed List.not_mem_nil) (by rw [size]; decide)
      ⟨.ok (), .ok datagram, true, sizeofSockaddrNl, 0⟩ rfl
    rw [received] at same
    exact same
  refine ⟨lost, ?_, ?_⟩
  · intro whole
    rw [Whole, lost] at whole
    cases whole
  · simp only [rtnlTalk, received]

/-- A datagram of the minimum length is taken into a buffer of no length and lost: the
return code says that there was nothing, and so does that of `rtnl_talk`. -/
theorem recv_boundary_lost :
    let datagram : List UInt8 := List.replicate 32768 0
    rtnlRecvCalls ⟨datagram, fun _ => [], 0⟩ true = some (.error (-Errno.enodata)) ∧
      ¬ Whole ⟨datagram, fun _ => [], 0⟩ ∧
      (rtnlTalk ⟨7, 3⟩ ⟨1, 0⟩ true ⟨.ok (), .ok datagram, true, sizeofSockaddrNl, 0⟩).2.2 =
        some ⟨-Errno.enodata, none⟩ := by
  intro datagram
  exact boundary_lost datagram List.length_replicate

end TrafficLimitd.Rtnl
