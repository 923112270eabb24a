import ThymesisFlow.Agent.Message
import ThymesisFlow.Lib.Keyed

/-!
# The list of connections

`clist` of `connection.c`, with the connection that the pointer refers to first.  Circuit ids are
compared by `strncmp` over `CIRCUIT_ID_SIZE` bytes, so what counts is the string, not the bytes
behind its end.
-/

namespace ThymesisFlow

/-- An active allocation.  `ea` is not assigned when a connection is made. -/
structure Connection where
  circuit_id : List UInt8
  afu_name : List UInt8
  size : BitVec 64
  no_hotplug : BitVec 32
  ea : Option (BitVec 64) := none
  deriving DecidableEq

inductive ConnCode
  | CONN_SUCCESS
  | CONN_DUP
  | CONN_NULL
  | CONN_NOT_FOUND
  deriving DecidableEq, Repr

def new_conn (circuit_id afu_name : List UInt8) (size : BitVec 64) (no_hotplug : BitVec 32) :
    Connection where
  circuit_id := circuit_id.take CIRCUIT_ID_SIZE
  afu_name := cstr (afu_name.take AFUNAME_SIZE)
  size := size
  no_hotplug := no_hotplug

@[simp] lemma new_conn_size (circuit_id afu_name : List UInt8) (size : BitVec 64)
    (no_hotplug : BitVec 32) : (new_conn circuit_id afu_name size no_hotplug).size = size := rfl

def get_conn (clist : List Connection) (circuit_id : List UInt8) : Option Connection :=
  clist.find? fun c => strncmpEq c.circuit_id circuit_id CIRCUIT_ID_SIZE

def add_conn (clist : List Connection) (conn : Connection) : List Connection × ConnCode :=
  match clist with
  | [] => ([conn], .CONN_NULL)
  | _ :: _ =>
      if (get_conn clist conn.circuit_id).isSome then (clist, .CONN_DUP)
      else (conn :: clist, .CONN_SUCCESS)

/-- The loop unlinks the first connection with the id. -/
def del_conn (clist : List Connection) (circuit_id : List UInt8) : List Connection × ConnCode :=
  match clist with
  | [] => ([], .CONN_NULL)
  | _ :: _ =>
      if (get_conn clist circuit_id).isSome then
        (clist.eraseP fun c => strncmpEq c.circuit_id circuit_id CIRCUIT_ID_SIZE, .CONN_SUCCESS)
      else (clist, .CONN_NOT_FOUND)

/-! ## The list as a map from circuits to connections -/

/-- The circuit that a circuit id names. -/
def circuitOf (circuit_id : List UInt8) : List UInt8 := cstr (circuit_id.take CIRCUIT_ID_SIZE)

/-- The circuit of a connection. -/
def Connection.circuit (c : Connection) : List UInt8 := circuitOf c.circuit_id

/-- The connection of a circuit. -/
def registered (clist : List Connection) (circuit : List UInt8) : Option Connection :=
  clist.find? fun c => c.circuit = circuit

/-- No circuit is connected twice. -/
def Distinct (clist : List Connection) : Prop := (clist.map Connection.circuit).Nodup

section Clist

variable {clist : List Connection} {conn : Connection} {circuit : List UInt8}

lemma registered_cons (conn : Connection) (clist : List Connection) (circuit : List UInt8) :
    registered (conn :: clist) circuit
      = if conn.circuit = circuit then some conn else registered clist circuit :=
  Keyed.lookup_cons conn clist circuit

lemma registered_some (h : registered clist circuit = some conn) :
    conn ∈ clist ∧ conn.circuit = circuit := Keyed.lookup_some h

lemma registered_eq_none : registered clist circuit = none ↔ ∀ c ∈ clist, c.circuit ≠ circuit :=
  Keyed.lookup_eq_none

/-- A connection in the list is the one that is found. -/
lemma registered_of_mem (hd : Distinct clist) (hc : conn ∈ clist) :
    registered clist conn.circuit = some conn := Keyed.lookup_of_mem hd hc

/-- A connection of a new circuit is put in front. -/
lemma add_conn_fresh (h : registered clist conn.circuit = none) :
    (add_conn clist conn).1 = conn :: clist := by
  cases clist with
  | nil => rfl
  | cons c cs =>
      have hn : get_conn (c :: cs) conn.circuit_id = none := h
      rw [add_conn, hn]
      rfl

/-- A connection of a circuit that is there already is not added. -/
lemma add_conn_dup (h : registered clist conn.circuit ≠ none) : (add_conn clist conn).1 = clist := by
  cases clist with
  | nil => exact absurd rfl h
  | cons c cs =>
      have hs : (get_conn (c :: cs) conn.circuit_id).isSome = true := Option.isSome_iff_ne_none.mpr h
      rw [add_conn, if_pos hs]

/-- A connection that is found is unlinked. -/
lemma del_conn_found {id : List UInt8} (h : get_conn clist id = some conn) :
    del_conn clist id = (clist.eraseP fun c => c.circuit = circuitOf id, .CONN_SUCCESS) := by
  cases clist with
  | nil => exact absurd h (by simp [get_conn])
  | cons c cs =>
      rw [del_conn, h]
      rfl

lemma Distinct.cons (hd : Distinct clist) (h : registered clist conn.circuit = none) :
    Distinct (conn :: clist) := Keyed.Distinct.cons hd h

lemma Distinct.eraseP (hd : Distinct clist) (p : Connection → Bool) : Distinct (clist.eraseP p) :=
  Keyed.Distinct.eraseP hd p

/-- After the connection of a circuit has been unlinked, the others are found as before. -/
lemma registered_eraseP (hd : Distinct clist) (circuit circuit' : List UInt8) :
    registered (clist.eraseP fun c => c.circuit = circuit) circuit'
      = if circuit' = circuit then none else registered clist circuit' :=
  Keyed.lookup_remove hd circuit circuit'

lemma mem_eraseP_iff (hd : Distinct clist) (circuit : List UInt8) :
    conn ∈ clist.eraseP (fun c => c.circuit = circuit) ↔ conn ∈ clist ∧ conn.circuit ≠ circuit :=
  Keyed.mem_remove_iff hd

end Clist

end ThymesisFlow
