import TrafficLimitd.IfaceProps
import TrafficLimitd.RtnlTalk

set_option autoImplicit false

/- src/tcbpf_util.c: the attributes of a request, appended by `addattr_l` and read back by
a loop like that of `get_iface_props`. -/
namespace TrafficLimitd.Tc

open Handler (CString ascii)
open Iface (sizeofRtattr rtaAlign rtaLayout)
open Protocol (leBytes leWord leBytes_length leWord_leBytes leWord_lt)
open Records (Layout align4 le_align4)
open Rtnl (Fault readWord intOf intOf_eq word_at sizeofNlmsghdr)

structure Attr where
  type : Int
  data : List UInt8
deriving DecidableEq, Repr

/-- A request: `nlmsg_len`, and the bytes of the whole object. Their number is `maxlen`,
which `addattr32` and `addattrstrz` take as an `int`. -/
structure Request where
  nlmsgLen : Nat
  bytes : List UInt8
  sized : bytes.length < 2 ^ 31

/-- How a request can fail to be built: `addattr_l` aborts, or it writes outside. -/
inductive Stop
  | abort
  | overflow
deriving DecidableEq, Repr

/-- `NLMSG_ALIGN` and `RTA_ALIGN`, on words of 32 bits. -/
def align32 (word : Nat) : Nat := (word + 3) % 2 ^ 32 / 4 * 4

/-- `NLMSG_TAIL`. -/
def Request.tail (request : Request) : Nat := align32 request.nlmsgLen

/-- The bytes with some of them written over. -/
def store (bytes data : List UInt8) (offset : Nat) : List UInt8 :=
  bytes.take offset ++ (data ++ bytes.drop (offset + data.length))

theorem store_length {bytes data : List UInt8} {offset : Nat}
    (inside : offset + data.length ≤ bytes.length) :
    (store bytes data offset).length = bytes.length := by
  simp only [store, List.length_append, List.length_take, List.length_drop]
  omega

/-- A `struct rtattr` with its data: both fields have 16 bits. -/
def rtattr (len : Nat) (type : Int) (data : List UInt8) : List UInt8 :=
  leBytes 2 len ++ (leBytes 2 (type % 65536).toNat ++ data)

theorem rtattr_length (len : Nat) (type : Int) (data : List UInt8) :
    (rtattr len type data).length = sizeofRtattr + data.length := by
  simp only [rtattr, List.length_append, leBytes_length, sizeofRtattr]
  omega

/-- `addattr_l`: `len` is an `int`, and its size together with that of the request a word
of 32 bits. -/
def addattrL (request : Request) (type : Int) (data : List UInt8) : Except Stop Request :=
  let alen := intOf data.length
  let len := (sizeofRtattr + data.length) % 2 ^ 32
  let total := (request.tail + align32 len) % 2 ^ 32
  if request.bytes.length < total then .error .abort
  else if stays : 0 ≤ alen ∧
      request.tail + sizeofRtattr + alen.toNat ≤ request.bytes.length then
    .ok {
      nlmsgLen := total
      bytes := store request.bytes (rtattr len type (data.take alen.toNat)) request.tail
      sized := by
        rw [store_length]
        · exact request.sized
        · rw [rtattr_length, List.length_take]
          omega }
  else .error .overflow

def addattr32 (request : Request) (type : Int) (value : UInt32) : Except Stop Request :=
  addattrL request type (leBytes 4 value.toNat)

def addattrstrz (request : Request) (type : Int) (text : CString) : Except Stop Request :=
  addattrL request type (text ++ [0])

/-- A call of one of the three functions. -/
inductive Addition
  | l (type : Int) (data : List UInt8)
  | u32 (type : Int) (value : UInt32)
  | strz (type : Int) (text : CString)
deriving DecidableEq, Repr

/-- The attribute that a call is meant to append. -/
def Addition.attr : Addition → Attr
  | .l type data => ⟨type, data⟩
  | .u32 type value => ⟨type, leBytes 4 value.toNat⟩
  | .strz type text => ⟨type, text ++ [0]⟩

def Addition.append (request : Request) : Addition → Except Stop Request
  | .l type data => addattrL request type data
  | .u32 type value => addattr32 request type value
  | .strz type text => addattrstrz request type text

theorem Addition.append_eq (request : Request) (addition : Addition) :
    addition.append request = addattrL request addition.attr.type addition.attr.data := by
  cases addition <;> rfl

def appendAll : Request → List Addition → Except Stop Request
  | request, [] => .ok request
  | request, addition :: rest => do
      let request ← addition.append request
      appendAll request rest

def readBytes (bytes : List UInt8) (count : Nat) : Except Fault (List UInt8) :=
  if count ≤ bytes.length then .ok (bytes.take count) else .error .outside

def tcaKind : Int := 1
def tcaOptions : Int := 2
def tcaBpfFd : Int := 6
def tcaBpfName : Int := 7
def tcaBpfFlags : Int := 8
def tcaBpfFlagActDirect : UInt32 := 1

/-- `NLMSG_LENGTH(sizeof(struct tcmsg))`, and the size of the whole request with its
buffer of `TCA_BUF_MAX` bytes. -/
def tcHeader : Nat := sizeofNlmsghdr + 20
def sizeofTcRequest : Nat := tcHeader + 64 * 1024

/-- A body for the loop of `get_iface_props` that collects all attributes. -/
def collect (bytes : List UInt8) (found : List Attr) (place len : Nat) :
    Except Fault (List Attr ⊕ List Attr) := do
  let type ← readWord (bytes.drop (place + 2)) 2
  let data ← readBytes (bytes.drop (place + sizeofRtattr)) (len - sizeofRtattr)
  return .inl (found ++ [⟨type, data⟩])

/-- The attributes in `attrLen` bytes from `place` on. -/
def walk (bytes : List UInt8) (place : Nat) (attrLen : Int) : Option (Except Fault (List Attr)) :=
  rtaLayout.loop (fun place => readWord (bytes.drop place) 2) (collect bytes) id
    (bytes.length + 1) place attrLen []

/-- `attr_len` of a message whose attributes start behind `header` bytes. -/
def Request.attrLen (request : Request) (header : Nat) : Int :=
  (BitVec.ofInt 32 ((request.nlmsgLen : Int) - header)).toInt

/-- The attribute fits the two fields of its header. -/
def Attr.Encodable (attr : Attr) : Prop :=
  0 ≤ attr.type ∧ attr.type < 65536 ∧ sizeofRtattr + attr.data.length < 65536

instance (attr : Attr) : Decidable attr.Encodable :=
  inferInstanceAs (Decidable (_ ∧ _))

def Attr.bytes (attr : Attr) : List UInt8 :=
  rtattr (sizeofRtattr + attr.data.length) attr.type attr.data

/-- Attributes one after the other, each padded to a multiple of four bytes. -/
inductive Encodes : List Attr → List UInt8 → Prop
  | nil : Encodes [] []
  | cons (attr : Attr) (pad : List UInt8) {rest : List Attr} {bytes : List UInt8}
      (padded : attr.bytes.length + pad.length = rtaAlign attr.bytes.length)
      (tail : Encodes rest bytes) : Encodes (attr :: rest) (attr.bytes ++ (pad ++ bytes))

theorem Encodes.append {first second : List Attr} {front back : List UInt8}
    (before : Encodes first front) (after : Encodes second back) :
    Encodes (first ++ second) (front ++ back) := by
  induction before with
  | nil => exact after
  | cons attr pad padded _ ih =>
      rw [List.cons_append, List.append_assoc, List.append_assoc]
      exact .cons attr pad padded ih

section Walk

theorem Attr.bytes_length (attr : Attr) : attr.bytes.length = sizeofRtattr + attr.data.length :=
  rtattr_length _ _ _

/-- The length of an attribute is read back from its bytes. -/
theorem readLen_bytes {attr : Attr} (encodable : attr.Encodable) (front back : List UInt8) :
    readWord ((front ++ (attr.bytes ++ back)).drop front.length) 2 = .ok attr.bytes.length := by
  have total := attr.bytes_length
  have word : leWord ((attr.bytes ++ back).take 2) = sizeofRtattr + attr.data.length := by
    rw [Attr.bytes, rtattr, List.append_assoc, List.take_left' (leBytes_length 2 _)]
    exact leWord_leBytes encodable.2.2
  rw [List.drop_left, readWord, if_pos, word, total]
  rw [List.length_append, total, sizeofRtattr]
  omega

/-- And so are its type and its data. -/
theorem collect_bytes {attr : Attr} (encodable : attr.Encodable) (front back : List UInt8)
    (found : List Attr) :
    collect (front ++ (attr.bytes ++ back)) found front.length attr.bytes.length =
      .ok (.inl (found ++ [attr])) := by
  have total := attr.bytes_length
  have skip : ∀ count, (front ++ (attr.bytes ++ back)).drop (front.length + count) =
      (attr.bytes ++ back).drop count := by
    intro count
    rw [← List.drop_drop, List.drop_left]
  have type : readWord ((attr.bytes ++ back).drop 2) 2 = .ok attr.type.toNat := by
    have small : (attr.type % 65536).toNat < 256 ^ 2 := by
      omega
    have same : (attr.type % 65536).toNat = attr.type.toNat := by
      rw [Int.emod_eq_of_lt encodable.1 encodable.2.1]
    rw [readWord, if_pos]
    · rw [Attr.bytes, rtattr, List.append_assoc, List.append_assoc,
        word_at (leBytes_length 2 _) small, same]
    · rw [List.length_drop, List.length_append, total, sizeofRtattr]
      omega
  have data : readBytes ((attr.bytes ++ back).drop sizeofRtattr)
      (attr.bytes.length - sizeofRtattr) = .ok attr.data := by
    have rest : (attr.bytes ++ back).drop sizeofRtattr = attr.data ++ back := by
      rw [Attr.bytes, rtattr, ← List.append_assoc, List.append_assoc]
      exact List.drop_left' (by simp only [List.length_append, leBytes_length, sizeofRtattr])
    rw [rest, total, Nat.add_sub_cancel_left, readBytes, if_pos, List.take_left]
    rw [List.length_append]
    omega
  have back : ((attr.type.toNat : Nat) : Int) = attr.type := Int.toNat_of_nonneg encodable.1
  simp only [collect, skip, type, data, bind, Except.bind, pure, Except.pure, back]

/-- The loop over the bytes of some attributes collects them, and stays in the bytes. -/
theorem loop_encodes {attrs : List Attr} {region : List UInt8} (encoded : Encodes attrs region)
    (encodable : ∀ attr ∈ attrs, attr.Encodable) (front back : List UInt8) (found : List Attr)
    (fuel : Nat) (enough : region.length < fuel) :
    rtaLayout.loop (fun place => readWord ((front ++ (region ++ back)).drop place) 2)
        (collect (front ++ (region ++ back))) id fuel front.length region.length found =
      some (.ok (found ++ attrs)) := by
  induction encoded generalizing front found fuel with
  | nil =>
      cases fuel with
      | zero => omega
      | succ fuel =>
          rw [List.append_nil]
          rfl
  | @cons attr pad rest bytes padded tail ih =>
      rw [List.forall_mem_cons] at encodable
      have total := attr.bytes_length
      cases fuel with
      | zero => omega
      | succ fuel =>
          have assoc : front ++ (attr.bytes ++ (pad ++ bytes) ++ back) =
              front ++ (attr.bytes ++ (pad ++ (bytes ++ back))) := by
            simp only [List.append_assoc]
          have next : front ++ (attr.bytes ++ (pad ++ (bytes ++ back))) =
              (front ++ (attr.bytes ++ pad)) ++ (bytes ++ back) := by
            simp only [List.append_assoc]
          have later := ih encodable.2 (front ++ (attr.bytes ++ pad)) (found ++ [attr]) fuel (by
            simp only [List.length_append] at enough
            unfold sizeofRtattr at total
            omega)
          have header : ¬ ((attr.bytes ++ (pad ++ bytes)).length : Int) < rtaLayout.header := by
            change ¬ _ < ((sizeofRtattr : Nat) : Int)
            simp only [List.length_append, total]
            omega
          have fits : rtaLayout.Fits attr.bytes.length
              ((attr.bytes ++ (pad ++ bytes)).length : Int) := by
            change sizeofRtattr ≤ _ ∧ _
            simp only [List.length_append, total]
            omega
          have place : front.length + rtaLayout.align attr.bytes.length =
              (front ++ (attr.bytes ++ pad)).length := by
            change _ + rtaAlign _ = _
            simp only [List.length_append]
            omega
          have left : ((attr.bytes ++ (pad ++ bytes)).length : Int) -
              rtaLayout.align attr.bytes.length = bytes.length := by
            change _ - ((rtaAlign _ : Nat) : Int) = _
            simp only [List.length_append]
            omega
          rw [Layout.loop, if_neg header, assoc, readLen_bytes encodable.1]
          simp only [if_pos fits, collect_bytes encodable.1, place, left]
          rw [next, later, List.append_assoc, List.singleton_append]

end Walk

section Build

variable {request : Request} {attr : Attr}

theorem store_append (front back data : List UInt8) :
    store (front ++ back) data front.length = front ++ (data ++ back.drop data.length) := by
  rw [store, List.take_left, ← List.drop_drop, List.drop_left]

theorem take_store {bytes data : List UInt8} {offset : Nat} (inside : offset ≤ bytes.length) :
    (store bytes data offset).take offset = bytes.take offset := by
  rw [store]
  exact List.take_left' (by rw [List.length_take, Nat.min_eq_left inside])

theorem align32_eq {word : Nat} (small : word < 2 ^ 32 - 3) : align32 word = rtaAlign word := by
  unfold align32 rtaAlign align4
  rw [Nat.mod_eq_of_lt (by omega)]

theorem Request.tail_eq (aligned : request.nlmsgLen % 4 = 0)
    (inside : request.nlmsgLen ≤ request.bytes.length) : request.tail = request.nlmsgLen := by
  have sized := request.sized
  rw [Request.tail, align32_eq (by omega), rtaAlign, align4]
  omega

/-- `addattr_l` aborts exactly if there is no room for the attribute, and does nothing but
write its bytes otherwise. -/
theorem addattrL_cases (request : Request) (attr : Attr)
    (int : sizeofRtattr + attr.data.length < 2 ^ 31)
    (aligned : request.nlmsgLen % 4 = 0) (inside : request.nlmsgLen ≤ request.bytes.length) :
    request.bytes.length < request.nlmsgLen + rtaAlign attr.bytes.length ∧
        addattrL request attr.type attr.data = .error .abort ∨
      request.nlmsgLen + rtaAlign attr.bytes.length ≤ request.bytes.length ∧
        ∃ next, addattrL request attr.type attr.data = .ok next ∧
          next.nlmsgLen = request.nlmsgLen + rtaAlign attr.bytes.length ∧
          next.bytes = store request.bytes attr.bytes request.nlmsgLen := by
  have sized := request.sized
  have total := attr.bytes_length
  have padded : attr.bytes.length ≤ rtaAlign attr.bytes.length := le_align4 _
  have tail := request.tail_eq aligned inside
  have len : (sizeofRtattr + attr.data.length) % 2 ^ 32 = attr.bytes.length := by
    rw [total]
    omega
  have small : rtaAlign attr.bytes.length ≤ 2 ^ 31 := by
    unfold rtaAlign align4
    omega
  have sum : (request.nlmsgLen + rtaAlign attr.bytes.length) % 2 ^ 32 =
      request.nlmsgLen + rtaAlign attr.bytes.length := by
    omega
  have alen : intOf attr.data.length = attr.data.length := intOf_eq (by omega)
  unfold addattrL
  simp only [tail, len, align32_eq (show attr.bytes.length < 2 ^ 32 - 3 by omega), sum, alen,
    Int.toNat_natCast, List.take_length]
  by_cases full : request.bytes.length < request.nlmsgLen + rtaAlign attr.bytes.length
  · rw [if_pos full]
    exact .inl ⟨full, rfl⟩
  · rw [if_neg full, dif_pos (by omega)]
    refine .inr ⟨by omega, _, rfl, rfl, ?_⟩
    simp only [Attr.bytes, rtattr_length]

/-- Its length as an `int` is no matter where it fits its header. -/
theorem Attr.Encodable.int (encodable : attr.Encodable) :
    sizeofRtattr + attr.data.length < 2 ^ 31 :=
  Nat.lt_trans encodable.2.2 (by decide)

/-- The request holds some attributes behind its header. -/
structure Built (request : Request) (header : Nat) (attrs : List Attr) : Prop where
  holds : ∃ front region back, request.bytes = front ++ (region ++ back) ∧
    front.length = header ∧ request.nlmsgLen = header + region.length ∧ Encodes attrs region
  aligned : request.nlmsgLen % 4 = 0
  inside : request.nlmsgLen ≤ request.bytes.length

/-- One attribute more; what was there before is not touched. -/
theorem Built.add {header : Nat} {attrs : List Attr} (built : Built request header attrs)
    (encodable : attr.Encodable)
    (passes : addattrL request attr.type attr.data ≠ .error .abort) :
    ∃ next, addattrL request attr.type attr.data = .ok next ∧
      Built next header (attrs ++ [attr]) ∧ next.bytes.length = request.bytes.length ∧
      request.nlmsgLen ≤ next.nlmsgLen ∧
      next.bytes.take request.nlmsgLen = request.bytes.take request.nlmsgLen := by
  obtain ⟨⟨front, region, back, whole, place, upto, encoded⟩, aligned, inside⟩ := built
  obtain ⟨room, next, added, longer, stored⟩ :=
    (addattrL_cases request attr encodable.int aligned inside).resolve_left
      fun aborts => passes aborts.2
  have padded : attr.bytes.length ≤ rtaAlign attr.bytes.length := le_align4 _
  have size : next.bytes.length = request.bytes.length := by
    rw [stored, store_length (by omega)]
  refine ⟨next, added, ⟨?_, ?_, by omega⟩, size, by omega, ?_⟩
  · -- The padding is what the bytes behind the attribute were.
    have behind : rtaAlign attr.bytes.length ≤ back.length := by
      simp only [whole, List.length_append] at room
      omega
    have tail : request.nlmsgLen = (front ++ region).length := by
      rw [List.length_append]
      omega
    have pad : ((back.drop attr.bytes.length).take
        (rtaAlign attr.bytes.length - attr.bytes.length)).length =
        rtaAlign attr.bytes.length - attr.bytes.length := by
      rw [List.length_take, List.length_drop]
      omega
    refine ⟨front, region ++ (attr.bytes ++ ((back.drop attr.bytes.length).take
      (rtaAlign attr.bytes.length - attr.bytes.length) ++ [])),
      (back.drop attr.bytes.length).drop (rtaAlign attr.bytes.length - attr.bytes.length),
      ?_, place, ?_, encoded.append (.cons attr _ ?_ .nil)⟩
    · rw [stored, whole, ← List.append_assoc, tail, store_append]
      simp only [List.append_assoc, List.nil_append, List.take_append_drop]
    · rw [longer]
      simp only [List.length_append, pad, List.length_nil]
      omega
    · rw [pad]
      omega
  · rw [longer, rtaAlign, align4]
    omega
  · rw [stored, take_store inside]

/-- The room that some attributes take. -/
def room (additions : List Addition) : Nat :=
  (additions.map fun addition => rtaAlign addition.attr.bytes.length).sum

/-- The size check passes where there is room. -/
theorem Built.passes {header : Nat} {attrs : List Attr} (built : Built request header attrs)
    (additions : List Addition) (encodable : ∀ addition ∈ additions, addition.attr.Encodable)
    (enough : request.nlmsgLen + room additions ≤ request.bytes.length) :
    appendAll request additions ≠ .error .abort := by
  induction additions generalizing request attrs with
  | nil => nofun
  | cons addition rest ih =>
      rw [List.forall_mem_cons] at encodable
      rw [room, List.map_cons, List.sum_cons] at enough
      rcases addattrL_cases request _ encodable.1.int built.aligned built.inside with
        ⟨full, _⟩ | ⟨_, next, added, longer, _⟩
      · omega
      · obtain ⟨_, same, more, size, _⟩ := built.add encodable.1 (by rw [added]; nofun)
        rw [added] at same
        cases same
        rw [appendAll, addition.append_eq, added]
        exact ih more encodable.2 (by unfold room; omega)

/-- The walk over a request gives the attributes it was built from. -/
theorem Built.walked {header : Nat} {attrs : List Attr} (built : Built request header attrs)
    (encodable : ∀ attr ∈ attrs, attr.Encodable) :
    walk request.bytes header (request.attrLen header) = some (.ok attrs) := by
  have sized := request.sized
  have inside := built.inside
  obtain ⟨front, region, back, whole, place, upto, encoded⟩ := built.holds
  have left : request.attrLen header = region.length := by
    rw [Request.attrLen, BitVec.toInt_ofInt, Int.bmod_eq_of_le]
    · omega
    · omega
    · omega
  have found := loop_encodes encoded encodable front back [] (request.bytes.length + 1) (by omega)
  rw [left, walk, ← place, whole]
  rw [whole] at found
  exact found

end Build

section Lists

variable {request : Request} {additions : List Addition}

end Lists

/-- What is appended behind `TCA_OPTIONS`. -/
def nested (bpfFd : UInt32) (name : CString) : List Addition :=
  [.u32 tcaBpfFd bpfFd, .u32 tcaBpfFd bpfFd, .strz tcaBpfName name,
    .u32 tcaBpfFlags tcaBpfFlagActDirect]

section Nested

variable {request : Request}

theorem Built.single {header : Nat} {attr : Attr} (built : Built request header [attr]) :
    request.nlmsgLen = header + rtaAlign attr.bytes.length := by
  obtain ⟨front, region, back, _, _, upto, encoded⟩ := built.holds
  cases encoded with
  | cons _ pad padded rest =>
      cases rest
      rw [upto, ← padded]
      simp only [List.length_append, List.length_nil, Nat.add_zero]

end Nested

/-- A request of the size of those for traffic control, its bytes all zero. -/
def blank : Request :=
  ⟨tcHeader, List.replicate sizeofTcRequest 0, by rw [List.length_replicate]; decide⟩

end TrafficLimitd.Tc
