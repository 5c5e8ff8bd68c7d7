import TrafficLimitd.RtnlProgram

set_option autoImplicit false

/- The loop of `rtnl_talk` with every read it makes: a read of a byte that is not in the
received datagram is a fault. -/
namespace TrafficLimitd.Rtnl

open Protocol (leWord)
open Records

/-- What a read can run into: bytes behind the datagram, or no message at all. -/
inductive Fault
  | outside
  | null
deriving DecidableEq, Repr

/-- A word of `count` bytes at the front of those that may be read. -/
def readWord (bytes : List UInt8) (count : Nat) : Except Fault Nat :=
  if count ≤ bytes.length then .ok (leWord (bytes.take count)) else .error .outside

theorem readWord_drop {datagram : List UInt8} {offset count : Nat}
    (inside : offset + count ≤ datagram.length) :
    readWord (datagram.drop offset) count = .ok (leWord ((datagram.drop offset).take count)) := by
  rw [readWord, List.length_drop, if_pos (by omega)]

/-- Messages in a datagram, for `NLMSG_OK` and `NLMSG_NEXT`. -/
def nlmsgLayout : Layout := ⟨sizeofNlmsghdr, nlmsgAlign, by decide, Records.le_align4⟩

/-- The test for a message that is skipped. -/
def skipsAt (query : Query) (datagram : List UInt8) (place : Nat) : Except Fault Bool :=
  if query.senderPid ≠ 0 then .ok true
  else do
    let pid ← readWord (datagram.drop (place + 12)) 4
    if pid ≠ query.localPid.toNat then return true
    let seq ← readWord (datagram.drop (place + 8)) 4
    return seq ≠ query.thisSeq.toNat

/-- The loop's body for the message at `place`. -/
def talkBody (query : Query) (datagram : List UInt8) (_ : Unit) (place len : Nat) :
    Except Fault (Unit ⊕ Reply) := do
  let skip ← skipsAt query datagram place
  if skip then
    let flags ← readWord (datagram.drop (place + 6)) 2
    if flags &&& nlmsgDone ≠ 0 then return .inr ⟨-Errno.enomsg, none⟩
    return .inl ()
  let type ← readWord (datagram.drop (place + 4)) 2
  if type = nlmsgError then
    if len < sizeofNlmsghdr + sizeofNlmsgerr then return .inr ⟨-Errno.einval, none⟩
    let word ← readWord (datagram.drop (place + 16)) 4
    let error := (BitVec.ofNat 32 word).toInt
    if error < 0 then return .inr ⟨error, none⟩
    return .inr ⟨0, none⟩
  return .inr ⟨0, if query.wantsAnswer then some place else none⟩

/-- The loop of `rtnl_talk` over a received datagram. -/
def talkLoop (query : Query) (datagram : List UInt8) : Option (Except Fault Reply) :=
  nlmsgLayout.loop (fun place => readWord (datagram.drop place) 4) (talkBody query datagram)
    (fun _ => ⟨-Errno.einval, none⟩) (datagram.length + 1) 0 datagram.length ()

section Reads

variable {query : Query} {datagram : List UInt8} {place : Nat}

theorem readWord_field {field count : Nat} (inside : place + field + count ≤ datagram.length) :
    readWord (datagram.drop (place + field)) count =
      .ok (leWord (((datagram.drop place).drop field).take count)) := by
  rw [readWord_drop inside, List.drop_drop]

theorem skipsAt_eq (inside : place + sizeofNlmsghdr ≤ datagram.length) :
    skipsAt query datagram place = .ok (skips query (datagram.drop place)) := by
  unfold sizeofNlmsghdr at inside
  have pid : readWord (datagram.drop (place + 12)) 4 = .ok (nlmsgPid (datagram.drop place)) :=
    readWord_field (by omega)
  have seq : readWord (datagram.drop (place + 8)) 4 = .ok (nlmsgSeq (datagram.drop place)) :=
    readWord_field (by omega)
  unfold skipsAt skips
  rw [pid, seq]
  by_cases foreign : query.senderPid ≠ 0
  · simp [foreign]
  · by_cases other : nlmsgPid (datagram.drop place) = query.localPid.toNat
    · simp [foreign, other, bind, Except.bind, pure, Except.pure]
    · simp [foreign, other, bind, Except.bind, pure, Except.pure]

/-- What the body makes of a message that is whole: nothing is read outside of it. -/
theorem talkBody_eq (query : Query) (header : sizeofNlmsghdr ≤ nlmsgLen (datagram.drop place))
    (inside : place + nlmsgLen (datagram.drop place) ≤ datagram.length) :
    talkBody query datagram () place (nlmsgLen (datagram.drop place)) =
      .ok (if skips query (datagram.drop place) then
          if nlmsgFlags (datagram.drop place) &&& nlmsgDone ≠ 0 then .inr ⟨-Errno.enomsg, none⟩
          else .inl ()
        else .inr (takeAnswer query place (datagram.drop place))) := by
  have flags : readWord (datagram.drop (place + 6)) 2 = .ok (nlmsgFlags (datagram.drop place)) :=
    readWord_field (by unfold sizeofNlmsghdr at header; omega)
  have type : readWord (datagram.drop (place + 4)) 2 = .ok (nlmsgType (datagram.drop place)) :=
    readWord_field (by unfold sizeofNlmsghdr at header; omega)
  unfold talkBody takeAnswer
  rw [skipsAt_eq (by omega), flags, type]
  cases skips query (datagram.drop place) with
  | true =>
      by_cases done : nlmsgFlags (datagram.drop place) &&& nlmsgDone = 0
      · simp [done, bind, Except.bind, pure, Except.pure]
      · simp [done, bind, Except.bind, pure, Except.pure]
  | false =>
      by_cases failed : nlmsgType (datagram.drop place) = nlmsgError
      · by_cases short : nlmsgLen (datagram.drop place) < sizeofNlmsghdr + sizeofNlmsgerr
        · simp [failed, short, bind, Except.bind, pure, Except.pure]
        · -- The length of the message covers the `struct nlmsgerr` that is read.
          have word : readWord (datagram.drop (place + 16)) 4 =
              .ok (leWord (((datagram.drop place).drop 16).take 4)) :=
            readWord_field (by unfold sizeofNlmsghdr sizeofNlmsgerr at short; omega)
          have error : (BitVec.ofNat 32 (leWord (((datagram.drop place).drop 16).take 4))).toInt =
            nlmsgErrError (datagram.drop place) := rfl
          rw [word]
          by_cases negative : nlmsgErrError (datagram.drop place) < 0
          · simp only [failed, short, error, negative, bind, Except.bind, pure, Except.pure,
              Bool.false_eq_true, ↓reduceIte]
          · simp only [failed, short, error, negative, bind, Except.bind, pure, Except.pure,
              Bool.false_eq_true, ↓reduceIte]
      · simp [failed, bind, Except.bind, pure, Except.pure]

end Reads

section Messages

variable (query : Query) (datagram : List UInt8)

/-- The length of the message at a place of the datagram. -/
def lenAt (datagram : List UInt8) (place : Nat) : Nat := nlmsgLen (datagram.drop place)

/-- What is returned from the message that ends the loop. -/
def Ended (place : Nat) (reply : Reply) : Prop :=
  reply = if skips query (datagram.drop place) then ⟨-Errno.enomsg, none⟩
    else takeAnswer query place (datagram.drop place)

section

variable {query datagram}

theorem talk_reads (place : Nat) (inside : (place : Int) + nlmsgLayout.header ≤ datagram.length) :
    readWord (datagram.drop place) 4 = .ok (lenAt datagram place) := by
  change (place : Int) + sizeofNlmsghdr ≤ datagram.length at inside
  unfold sizeofNlmsghdr at inside
  exact readWord_drop (by omega)

end

variable {query datagram}

end Messages

theorem nlmsgOk_iff {datagram : List UInt8} {place : Nat} {left : Int}
    (upto : (place : Int) + left = datagram.length) :
    nlmsgOk (datagram.drop place) = true ↔ nlmsgLayout.Fits (lenAt datagram place) left := by
  change _ ↔ sizeofNlmsghdr ≤ lenAt datagram place ∧ (lenAt datagram place : Int) ≤ left
  simp only [nlmsgOk, Bool.and_eq_true, decide_eq_true_eq, List.length_drop, lenAt]
  have header : 0 < sizeofNlmsghdr := by decide
  omega

/-- The loop with its reads is the loop over the bytes. -/
theorem loop_eq_scan (query : Query) (datagram : List UInt8) (fuel place : Nat) (left : Int)
    (upto : (place : Int) + left = datagram.length) :
    nlmsgLayout.loop (fun place => readWord (datagram.drop place) 4) (talkBody query datagram)
        (fun _ => ⟨-Errno.einval, none⟩) fuel place left () =
      (scan query fuel place (datagram.drop place)).map .ok := by
  induction fuel generalizing place left with
  | zero => rfl
  | succ fuel ih =>
      rw [Layout.loop_succ talk_reads upto, scan]
      by_cases fits : nlmsgLayout.Fits (lenAt datagram place) left
      · have ok := (nlmsgOk_iff upto).mpr fits
        have inside : place + nlmsgLen (datagram.drop place) ≤ datagram.length := by
          have bound : (nlmsgLen (datagram.drop place) : Int) ≤ left := fits.2
          omega
        have rest := ih (place + nlmsgAlign (lenAt datagram place))
          (left - nlmsgAlign (lenAt datagram place)) (by push_cast; omega)
        rw [if_pos fits, if_neg (by rw [ok]; decide), lenAt, talkBody_eq query fits.1 inside]
        by_cases skipped : skips query (datagram.drop place)
        · rw [if_pos skipped, if_pos skipped]
          by_cases done : nlmsgFlags (datagram.drop place) &&& nlmsgDone ≠ 0
          · rw [if_pos done, if_pos done]
            rfl
          · rw [if_neg done, if_neg done]
            refine Eq.trans rest ?_
            rw [nlmsgNext, List.drop_drop, lenAt]
        · rw [if_neg skipped, if_neg skipped]
          rfl
      · have bad : nlmsgOk (datagram.drop place) = false :=
          Bool.eq_false_iff.mpr fun ok => fits ((nlmsgOk_iff upto).mp ok)
        rw [if_neg fits, if_pos bad]
        rfl

/-- Both models of the loop give the same reply. -/
theorem talkLoop_eq_scan (query : Query) (datagram : List UInt8) :
    talkLoop query datagram =
      (scan query (datagram.length + 1) 0 datagram).map .ok :=
  loop_eq_scan query datagram _ 0 _ (by omega)

end TrafficLimitd.Rtnl
