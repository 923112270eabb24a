import ThymesisFlow.Lib.Bytes

/-!
# Messages of the agent

The serialized requests and responses of `proto.c`: where each field lies, and what the getters
and setters copy.  `malloc` does not clear a message, so a response starts with whatever bytes
were there.
-/

namespace ThymesisFlow

def CIRCUIT_ID_SIZE : ℕ := 36

def MSGTYPE_SIZE : ℕ := 16

def AFUNAME_SIZE : ℕ := 256

def MSG_SIZE : ℕ := CIRCUIT_ID_SIZE + MSGTYPE_SIZE + AFUNAME_SIZE + 1 + 8 + 8 + 4 + 4

def CIRCUIT_ID_OFFSET : ℕ := 0

def MSGTYPE_OFFSET : ℕ := CIRCUIT_ID_OFFSET + CIRCUIT_ID_SIZE

def AFUNAME_OFFSET : ℕ := MSGTYPE_OFFSET + MSGTYPE_SIZE

def IPORT_OFFSET : ℕ := AFUNAME_OFFSET + AFUNAME_SIZE

def MEM_SIZE_OFFSET : ℕ := IPORT_OFFSET + 1

def EA_OFFSET : ℕ := MEM_SIZE_OFFSET + 8

def NO_HOTPLUG_OFFSET : ℕ := EA_OFFSET + 8

def ERROR_OFFSET : ℕ := NO_HOTPLUG_OFFSET + 4

def MEMORY_ATTACH : List UInt8 := ascii ['m', 'e', 'm', 'o', 'r', 'y', '_', 'a', 't', 't', 'a', 'c', 'h']

def COMPUTE_ATTACH : List UInt8 :=
  ascii ['c', 'o', 'm', 'p', 'u', 't', 'e', '_', 'a', 't', 't', 'a', 'c', 'h']

def MEMORY_DETACH : List UInt8 := ascii ['m', 'e', 'm', 'o', 'r', 'y', '_', 'd', 'e', 't', 'a', 'c', 'h']

def COMPUTE_DETACH : List UInt8 :=
  ascii ['c', 'o', 'm', 'p', 'u', 't', 'e', '_', 'd', 'e', 't', 'a', 'c', 'h']

def MRESPONSE_ATTACH : List UInt8 :=
  ascii ['m', 'r', 'e', 's', 'p', 'o', 'n', 's', 'e', '_', 'a', 't', 't', 'a', 'c', 'h']

def CRESPONSE_ATTACH : List UInt8 :=
  ascii ['c', 'r', 'e', 's', 'p', 'o', 'n', 's', 'e', '_', 'a', 't', 't', 'a', 'c', 'h']

def MRESPONSE_DETACH : List UInt8 :=
  ascii ['m', 'r', 'e', 's', 'p', 'o', 'n', 's', 'e', '_', 'd', 'e', 't', 'a', 'c', 'h']

def CRESPONSE_DETACH : List UInt8 :=
  ascii ['c', 'r', 'e', 's', 'p', 'o', 'n', 's', 'e', '_', 'd', 'e', 't', 'a', 'c', 'h']

/-- The message types that `set_msgtype` accepts. -/
def MSGTYPES : List (List UInt8) :=
  [COMPUTE_ATTACH, COMPUTE_DETACH, MEMORY_ATTACH, MEMORY_DETACH, CRESPONSE_ATTACH, CRESPONSE_DETACH,
    MRESPONSE_ATTACH, MRESPONSE_DETACH]

def MEMBLOCK_SIZE : ℕ := 0x10000000

def ATTACH_OK : BitVec 32 := 100

def ERR_PORT_UNSUPPORTED : BitVec 32 := 108

def ERR_PROBE : BitVec 32 := 111

def DETACH_OK : BitVec 32 := 200

def ERR_REGISTER_DETACH : BitVec 32 := 201

def ERR_MISSING_CID : BitVec 32 := 201

abbrev Message := Bytes MSG_SIZE

/-! ## Port lists -/

/-- The port list of a bit mask: the loop goes through the eight bits from the lowest on and puts
each port in front of the list. -/
def unmarshal_iports (n : UInt8) : List ℕ :=
  (List.range 8).foldl (fun pl k => if n.toNat.testBit k then (k + 1) :: pl else pl) []

def marshal_iports (pl : List ℕ) : UInt8 :=
  pl.foldl (fun port_rep nport => port_rep + UInt8.ofNat (1 <<< (nport - 1))) 0

namespace Message

variable (msg : Message)

/-! ## Getters -/

def get_circuitid : List UInt8 := msg.get CIRCUIT_ID_OFFSET CIRCUIT_ID_SIZE

def get_msgtype : List UInt8 := msg.get MSGTYPE_OFFSET MSGTYPE_SIZE

def get_afu_name : List UInt8 := msg.get AFUNAME_OFFSET AFUNAME_SIZE

def get_iports : List ℕ := unmarshal_iports ((msg.get IPORT_OFFSET 1).headD 0)

def get_size : BitVec 64 := BitVec.ofNat 64 (ofLeBytes (msg.get MEM_SIZE_OFFSET 8))

def get_ea : BitVec 64 := BitVec.ofNat 64 (ofLeBytes (msg.get EA_OFFSET 8))

def get_no_hotplug : BitVec 32 := BitVec.ofNat 32 (ofLeBytes (msg.get NO_HOTPLUG_OFFSET 4))

def get_status : BitVec 32 := BitVec.ofNat 32 (ofLeBytes (msg.get ERROR_OFFSET 4))

/-! ## Setters

A string argument is the memory behind the pointer, of which a field of a fixed size is copied.
-/

def set_circuitid (circuit_id : List UInt8) : Message :=
  msg.put CIRCUIT_ID_OFFSET (circuit_id.take CIRCUIT_ID_SIZE)

/-- A string that is no message type is refused.  The constant is copied with its terminator, if that
fits; what is behind the terminator in memory is as arbitrary as what a new message holds there. -/
def set_msgtype (msgtype : List UInt8) : Message :=
  if msgtype ∈ MSGTYPES then msg.put MSGTYPE_OFFSET ((msgtype ++ [0]).take MSGTYPE_SIZE) else msg

/-- An empty name is refused. -/
def set_afu (afu : List UInt8) : Message :=
  if cstr afu = [] then msg else msg.put AFUNAME_OFFSET (afu.take AFUNAME_SIZE)

def set_iports (ports : List ℕ) : Message := msg.put IPORT_OFFSET [marshal_iports ports]

/-- A size of zero or one that is no multiple of the block size is refused. -/
def set_size (size : BitVec 64) : Message :=
  if size = 0 then msg
  else if size.toNat % MEMBLOCK_SIZE ≠ 0 then msg
  else msg.put MEM_SIZE_OFFSET (leBytes 8 size.toNat)

def set_ea (ea : BitVec 64) : Message :=
  if ea = 0 then msg else msg.put EA_OFFSET (leBytes 8 ea.toNat)

/-- The flag is an `int`, and only zero and one are accepted. -/
def set_no_hotplug (no_hotplug : BitVec 32) : Message :=
  if 1 < no_hotplug.toInt ∨ no_hotplug.toInt < 0 then msg
  else msg.put NO_HOTPLUG_OFFSET (leBytes 4 no_hotplug.toNat)

def set_status (status : BitVec 32) : Message := msg.put ERROR_OFFSET (leBytes 4 status.toNat)

end Message

/-! ## Fields -/

/-- The fields of a message. -/
inductive Field
  | CIRCUIT_ID
  | MSGTYPE
  | AFUNAME
  | IPORT
  | MEM_SIZE
  | EA
  | NO_HOTPLUG
  | ERROR
  deriving DecidableEq, Repr

namespace Field

def offset : Field → ℕ
  | .CIRCUIT_ID => CIRCUIT_ID_OFFSET
  | .MSGTYPE => MSGTYPE_OFFSET
  | .AFUNAME => AFUNAME_OFFSET
  | .IPORT => IPORT_OFFSET
  | .MEM_SIZE => MEM_SIZE_OFFSET
  | .EA => EA_OFFSET
  | .NO_HOTPLUG => NO_HOTPLUG_OFFSET
  | .ERROR => ERROR_OFFSET

def size : Field → ℕ
  | .CIRCUIT_ID => CIRCUIT_ID_SIZE
  | .MSGTYPE => MSGTYPE_SIZE
  | .AFUNAME => AFUNAME_SIZE
  | .IPORT => 1
  | .MEM_SIZE => 8
  | .EA => 8
  | .NO_HOTPLUG => 4
  | .ERROR => 4

/-- Two fields do not overlap. -/
lemma disjoint {f g : Field} (h : f ≠ g) :
    f.offset + f.size ≤ g.offset ∨ g.offset + g.size ≤ f.offset := by
  cases f <;> cases g <;> first | exact absurd rfl h | decide

/-- A field is within the message. -/
lemma fits (f : Field) : f.offset + f.size ≤ MSG_SIZE := by
  cases f <;> decide

end Field

namespace Message

variable (msg : Message) {f : Field}

def field (f : Field) : List UInt8 := msg.get f.offset f.size

/-- What is written into a field does not touch another one. -/
lemma field_put {g : Field} (h : f ≠ g) {bs : List UInt8} (hlen : bs.length ≤ g.size) :
    Message.field (msg.put g.offset bs) f = msg.field f := by
  refine Bytes.get_put_of_disjoint msg ?_
  rcases Field.disjoint h with hd | hd
  · exact .inl hd
  · exact .inr (by omega)

@[simp] lemma field_set_circuitid (h : f ≠ .CIRCUIT_ID) (circuit_id : List UInt8) :
    (msg.set_circuitid circuit_id).field f = msg.field f :=
  msg.field_put h (List.length_take_le _ _)

@[simp] lemma field_set_msgtype (h : f ≠ .MSGTYPE) (t : List UInt8) :
    (msg.set_msgtype t).field f = msg.field f := by
  rw [set_msgtype]
  split_ifs
  · exact msg.field_put h (List.length_take_le _ _)
  · rfl

@[simp] lemma field_set_afu (h : f ≠ .AFUNAME) (afu : List UInt8) :
    (msg.set_afu afu).field f = msg.field f := by
  rw [set_afu]
  split_ifs
  · rfl
  · exact msg.field_put h (List.length_take_le _ _)

@[simp] lemma field_set_iports (h : f ≠ .IPORT) (ports : List ℕ) :
    (msg.set_iports ports).field f = msg.field f :=
  msg.field_put h (Nat.le_refl _)

@[simp] lemma field_set_size (h : f ≠ .MEM_SIZE) (size : BitVec 64) :
    (msg.set_size size).field f = msg.field f := by
  rw [set_size]
  split_ifs
  · rfl
  · rfl
  · exact msg.field_put h (length_leBytes _ _).le

@[simp] lemma field_set_ea (h : f ≠ .EA) (ea : BitVec 64) : (msg.set_ea ea).field f = msg.field f := by
  rw [set_ea]
  split_ifs
  · rfl
  · exact msg.field_put h (length_leBytes _ _).le

@[simp] lemma field_set_no_hotplug (h : f ≠ .NO_HOTPLUG) (no_hotplug : BitVec 32) :
    (msg.set_no_hotplug no_hotplug).field f = msg.field f := by
  rw [set_no_hotplug]
  split_ifs
  · rfl
  · exact msg.field_put h (length_leBytes _ _).le

@[simp] lemma field_set_status (h : f ≠ .ERROR) (status : BitVec 32) :
    (msg.set_status status).field f = msg.field f :=
  msg.field_put h (length_leBytes _ _).le

/-! ## What is set is read back -/

@[simp] lemma get_status_set_status (status : BitVec 32) :
    (msg.set_status status).get_status = status := by
  have hget := Bytes.get_put msg ERROR_OFFSET (leBytes 4 status.toNat)
    (by rw [length_leBytes]; decide)
  rw [length_leBytes] at hget
  rw [get_status, set_status, hget, ofLeBytes_leBytes]
  refine BitVec.eq_of_toNat_eq ?_
  have := status.isLt
  rw [BitVec.toNat_ofNat]
  omega

@[simp] lemma get_circuitid_set_circuitid {circuit_id : List UInt8}
    (h : circuit_id.length = CIRCUIT_ID_SIZE) :
    (msg.set_circuitid circuit_id).get_circuitid = circuit_id := by
  rw [get_circuitid, set_circuitid, List.take_of_length_le h.le, ← h]
  exact Bytes.get_put msg _ _ (by rw [h]; decide)

@[simp] lemma get_circuitid_set_msgtype (t : List UInt8) :
    (msg.set_msgtype t).get_circuitid = msg.get_circuitid :=
  msg.field_set_msgtype (f := .CIRCUIT_ID) (by decide) t

@[simp] lemma get_circuitid_set_afu (afu : List UInt8) :
    (msg.set_afu afu).get_circuitid = msg.get_circuitid :=
  msg.field_set_afu (f := .CIRCUIT_ID) (by decide) afu

@[simp] lemma get_circuitid_set_iports (ports : List ℕ) :
    (msg.set_iports ports).get_circuitid = msg.get_circuitid :=
  msg.field_set_iports (f := .CIRCUIT_ID) (by decide) ports

@[simp] lemma get_circuitid_set_size (size : BitVec 64) :
    (msg.set_size size).get_circuitid = msg.get_circuitid :=
  msg.field_set_size (f := .CIRCUIT_ID) (by decide) size

@[simp] lemma get_circuitid_set_ea (ea : BitVec 64) :
    (msg.set_ea ea).get_circuitid = msg.get_circuitid :=
  msg.field_set_ea (f := .CIRCUIT_ID) (by decide) ea

@[simp] lemma get_circuitid_set_no_hotplug (no_hotplug : BitVec 32) :
    (msg.set_no_hotplug no_hotplug).get_circuitid = msg.get_circuitid :=
  msg.field_set_no_hotplug (f := .CIRCUIT_ID) (by decide) no_hotplug

@[simp] lemma get_circuitid_set_status (status : BitVec 32) :
    (msg.set_status status).get_circuitid = msg.get_circuitid :=
  msg.field_set_status (f := .CIRCUIT_ID) (by decide) status

@[simp] lemma length_get_circuitid : msg.get_circuitid.length = CIRCUIT_ID_SIZE :=
  Bytes.length_get _ _ _

end Message

end ThymesisFlow
