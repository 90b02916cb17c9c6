import Xredis.Server.Invariant

/-!
# Redis Cluster

A cluster splits the keyspace into 16384 slots. The slot of a key is `keyHashSlot`: the
CRC16 (XMODEM) of the key's bytes, or of the bytes between its first `{` and the first `}`
after it when there are some, modulo 16384. After the checks of a single server, a
command whose keys lie in different slots is refused with `CROSSSLOT`; so is a command
queued in a transaction, which then makes `EXEC` fail, and an `EXEC` whose queued
commands' keys lie in different slots. A command whose keys share a slot runs on the node
that serves the slot as on a single server.

The cluster is one keyspace here: the go-redis cluster client sends a command to the node
of its first key's slot and follows `MOVED` and `ASK`, so which node holds a key is not
observable through the client.

* `keyHashSlot` — Redis's `keyHashSlot`;
* `executeCluster`, `runAllCluster`, `execTxCluster` — one command, a pipeline and a
  transaction on a cluster;
* `executeCluster_of_not_crossSlot`, `runAllCluster_of_not_crossSlot` — commands whose keys
  share a slot run as on a single server.
-/

namespace Xredis
namespace Server

/-- One byte of Redis's `crc16` (CRC16-CCITT, XMODEM: polynomial `0x1021`, no reflection),
bit by bit as its table encodes it. -/
def crc16Byte (crc b : Nat) : Nat :=
  (List.range 8).foldl
    (fun c _ => if c &&& 0x8000 = 0 then (c <<< 1) % 0x10000 else ((c <<< 1) ^^^ 0x1021) % 0x10000)
    (crc ^^^ (b <<< 8))

/-- `crc16(buf, len)`. -/
def crc16 (bs : List Nat) : Nat :=
  bs.foldl crc16Byte 0

/-- The bytes `keyHashSlot` hashes: those between the first `{` and the first `}` after it
when there are some, the whole key otherwise. -/
def hashTag (key : List Nat) : List Nat :=
  match key.dropWhile (· ≠ 123) with
  | [] => key
  | _ :: rest =>
    let tag := rest.takeWhile (· ≠ 125)
    if tag ≠ [] ∧ tag.length < rest.length then tag else key

/-- `keyHashSlot`: the slot of a key. -/
def keyHashSlot (key : String) : Nat :=
  crc16 (hashTag (key.toUTF8.data.toList.map UInt8.toNat)) % 16384

example : keyHashSlot "foo" = 12182 := rfl

set_option maxRecDepth 2000 in
example : keyHashSlot "{user1000}.following" = keyHashSlot "{user1000}.followers" := rfl

/-- The keys of a command of the table: every argument of `DEL` and `EXISTS`, the first
argument of the others. -/
def commandKeys : List String → List String
  | name :: args => if lower name = "del" ∨ lower name = "exists" then args else args.take 1
  | [] => []

/-- Keys in more than one slot. -/
def keysCrossSlot : List String → Bool
  | k :: ks => ks.any fun k' => keyHashSlot k' ≠ keyHashSlot k
  | [] => false

/-- A command whose keys lie in more than one slot. -/
def crossSlot (argv : List String) : Bool :=
  keysCrossSlot (commandKeys argv)

/-- The refusal of a command across slots. -/
def crossSlotErr : String := "CROSSSLOT Keys in request don't hash to the same slot"

/-- One command on a cluster: the checks of a single server, then the slots of its keys. -/
def executeCluster (s : Store) (argv : List String) : Reply × Store :=
  match precheck argv with
  | some e => (.err e, s)
  | none => if crossSlot argv then (.err crossSlotErr, s) else run s argv

/-- A pipeline on a cluster: `runAll` with each command run by `executeCluster`. -/
def runAllCluster (s : Store) : List (List String) → List Reply × Store
  | [] => ([], s)
  | c :: cs =>
    let r := executeCluster s c
    let rs := runAllCluster r.2 cs
    (r.1 :: rs.1, rs.2)

/-- `MULTI … EXEC` on a cluster node. A command refused while queueing, by a single
server's checks or across slots, is not queued and makes `EXEC` fail; but first `EXEC`
is refused, and the transaction discarded, when the queued commands' keys lie in more
than one slot; otherwise it runs as on a single server. -/
def execTxCluster (s : Store) (cmds : List (List String)) : Except String (List Reply) × Store :=
  if keysCrossSlot ((cmds.filter fun c => (precheck c).isNone && !crossSlot c).flatMap commandKeys) then
    (.error crossSlotErr, s)
  else if cmds.any crossSlot then (.error execAbort, s)
  else execTx s cmds

/-! ### Commands in one slot -/

theorem executeCluster_of_not_crossSlot {argv : List String} (h : crossSlot argv = false)
    (s : Store) : executeCluster s argv = execute s argv := by
  unfold executeCluster execute
  cases precheck argv <;> simp [h]

theorem runAllCluster_of_not_crossSlot (s : Store) :
    ∀ {cmds : List (List String)}, (∀ c ∈ cmds, crossSlot c = false) →
      runAllCluster s cmds = runAll s cmds
  | [], _ => rfl
  | c :: cs, h => by
    simp only [runAllCluster, runAll, executeCluster_of_not_crossSlot (h c (List.mem_cons_self _ _)),
      runAllCluster_of_not_crossSlot _ fun c hc => h c (List.mem_cons_of_mem _ hc)]

end Server
end Xredis
