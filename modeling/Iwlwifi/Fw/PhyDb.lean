import Mathlib.Algebra.Ring.Nat

/-!
# The PHY database

The init firmware reports its calibration results in sections: the configuration, the data of no
channel, and the data of the PAPD and the TX power groups of channels.  `iwl_phy_db_set_section`
keeps the last result of each section, and `iwl_send_phy_db_data` sends all of them to the runtime
firmware.  The arrays of groups are allocated for the first group that comes, which is the largest
one.
-/

namespace Iwlwifi.PhyCalib

/-- `struct iwl_phy_db_entry` -/
structure Entry where
  size : UInt16 := 0
  data : Option (List UInt8) := none
deriving DecidableEq, Repr

/-- The groups of one type: their number and the array. -/
structure Groups where
  nGroup : Int := -1
  calibChGroup : Option (List Entry) := none
deriving DecidableEq, Repr

/-- `struct iwl_phy_db`, as `iwl_phy_db_init` leaves it. -/
structure PhyDb where
  cfg : Entry := {}
  calibNch : Entry := {}
  papd : Groups := {}
  txp : Groups := {}
deriving DecidableEq, Repr

/-- `enum iwl_phy_db_section_type` -/
inductive SectionType
  | cfg
  | calibNch
  | unused
  | calibChgPapd
  | calibChgTxp
deriving DecidableEq, Repr

def SectionType.ofCode (type : UInt16) : Option SectionType :=
  match type.toNat with
  | 1 => some .cfg
  | 2 => some .calibNch
  | 3 => some .unused
  | 4 => some .calibChgPapd
  | 5 => some .calibChgTxp
  | _ => none

def SectionType.code : SectionType → UInt16
  | .cfg => 1
  | .calibNch => 2
  | .unused => 3
  | .calibChgPapd => 4
  | .calibChgTxp => 5

/-- `struct iwl_calib_res_notif_phy_db`; `data` are the bytes from its data on. -/
structure CalibResNotif where
  type : UInt16
  length : UInt16
  data : Nat → UInt8

namespace CalibResNotif

variable (notif : CalibResNotif)

/-- The group, where the section is one of a group. -/
def chgId : Nat := (notif.data 0).toNat + 2 ^ 8 * (notif.data 1).toNat

def payload : List UInt8 := (List.range notif.length.toNat).map notif.data

end CalibResNotif

def einval : Int := -22

def enomem : Int := -12

/-! ## Sections -/

/-- The entry of a group. -/
def Groups.get (groups : Groups) (chgId : Nat) : Option Entry :=
  if (chgId : Int) ≥ groups.nGroup then none
  else (groups.calibChGroup.getD [])[chgId]?

def Groups.set (groups : Groups) (chgId : Nat) (entry : Entry) : Groups :=
  { groups with calibChGroup := groups.calibChGroup.map fun entries => entries.set chgId entry }

/-- The array is allocated when the first group comes, if there is memory. -/
def Groups.alloc (groups : Groups) (chgId : Nat) (memory : Bool) : Option Groups :=
  if groups.calibChGroup.isSome then some groups
  else if memory then some ⟨chgId + 1, some (List.replicate (chgId + 1) {})⟩
  else none

namespace PhyDb

variable (phyDb : PhyDb)

/-- `iwl_phy_db_get_section` -/
def getSection (type : SectionType) (chgId : Nat) : Option Entry :=
  match type with
  | .cfg => some phyDb.cfg
  | .calibNch => some phyDb.calibNch
  | .calibChgPapd => phyDb.papd.get chgId
  | .calibChgTxp => phyDb.txp.get chgId
  | .unused => none

/-- Write the entry that `iwl_phy_db_get_section` gives. -/
def putSection (type : SectionType) (chgId : Nat) (entry : Entry) : PhyDb :=
  match type with
  | .cfg => { phyDb with cfg := entry }
  | .calibNch => { phyDb with calibNch := entry }
  | .calibChgPapd => { phyDb with papd := phyDb.papd.set chgId entry }
  | .calibChgTxp => { phyDb with txp := phyDb.txp.set chgId entry }
  | .unused => phyDb

/-- The array of the groups of a type, if it is one of groups. -/
def allocGroups (type : SectionType) (chgId : Nat) (memory : Bool) : Option PhyDb :=
  match type with
  | .calibChgPapd => (phyDb.papd.alloc chgId memory).map fun papd => { phyDb with papd }
  | .calibChgTxp => (phyDb.txp.alloc chgId memory).map fun txp => { phyDb with txp }
  | _ => some phyDb

end PhyDb

/-- A call of `iwl_phy_db_set_section`, and whether there is memory for an array of groups and for
a copy of the data. -/
structure SetCall where
  notif : CalibResNotif
  groupMemory : Bool
  dataMemory : Bool

def SectionType.isGroup : SectionType → Bool
  | .calibChgPapd => true
  | .calibChgTxp => true
  | _ => false

/-- `iwl_phy_db_set_section` -/
def iwlPhyDbSetSection (phyDb : PhyDb) (call : SetCall) : Int × PhyDb :=
  match SectionType.ofCode call.notif.type with
  | none => (einval, phyDb)
  | some type =>
      let chgId := if type.isGroup then call.notif.chgId else 0
      match phyDb.allocGroups type chgId call.groupMemory with
      | none => (enomem, phyDb)
      | some phyDb =>
          match phyDb.getSection type chgId with
          | none => (einval, phyDb)
          | some _ =>
              if call.dataMemory then
                (0, phyDb.putSection type chgId ⟨call.notif.length, some call.notif.payload⟩)
              else (enomem, phyDb.putSection type chgId ⟨0, none⟩)

/-! ## Sending -/

/-- `struct iwl_phy_db_cmd`, with the data behind it -/
structure PhyDbCmd where
  type : UInt16
  length : UInt16
  data : Option (List UInt8)
deriving DecidableEq, Repr

def Entry.cmd (entry : Entry) (type : SectionType) : PhyDbCmd :=
  ⟨type.code, entry.size, entry.data⟩

section

variable (send : PhyDbCmd → Int) (phyDb : PhyDb)

/-- The loop of `iwl_phy_db_send_all_channel_groups`, behind the commands that were sent. -/
def sendGroups (type : SectionType) : (groups : List Nat) → List PhyDbCmd → Int × List PhyDbCmd
  | [], sent => (0, sent)
  | i :: rest, sent =>
      match phyDb.getSection type i with
      | none => (einval, sent)
      | some entry =>
          if entry.size = 0 then sendGroups type rest sent
          else
            let err := send (entry.cmd type)
            if err ≠ 0 then (err, sent ++ [entry.cmd type])
            else sendGroups type rest (sent ++ [entry.cmd type])

/-- `iwl_phy_db_send_all_channel_groups` -/
def iwlPhyDbSendAllChannelGroups (type : SectionType) (maxChGroups : UInt8)
    (sent : List PhyDbCmd) : Int × List PhyDbCmd :=
  sendGroups send phyDb type (List.range maxChGroups.toNat) sent

/-- `iwl_send_phy_db_data`, with the commands that it sends. -/
def iwlSendPhyDbData : Int × List PhyDbCmd :=
  let cfg := phyDb.cfg.cmd .cfg
  if send cfg ≠ 0 then (send cfg, [cfg])
  else
    let calibNch := phyDb.calibNch.cmd .calibNch
    if send calibNch ≠ 0 then (send calibNch, [cfg, calibNch])
    else
      let papd := iwlPhyDbSendAllChannelGroups send phyDb .calibChgPapd (.ofInt phyDb.papd.nGroup)
        [cfg, calibNch]
      if papd.1 ≠ 0 then papd
      else iwlPhyDbSendAllChannelGroups send phyDb .calibChgTxp (.ofInt phyDb.txp.nGroup) papd.2

end

end Iwlwifi.PhyCalib
