import AliceHal.Lib.Bytes

/-!
# NFC Status Codes

`NFCSTATUS` values, their composition with a component id (`PHNFCSTVAL`) and the status bytes
the NFCC puts into its download responses (`PH_DL_STATUS_*`).

Every value is the one `phNfcStatus.h`, `phNfcCompId.h` and `phDnldNfc_Status.h` define; codes
that no modelled function uses are left out.
-/

namespace AliceHal.Pn54x

/-- Return value of the NFC functions (`uint16_t`). -/
abbrev NFCSTATUS := UInt16

namespace NFCSTATUS

def success : NFCSTATUS := 0x0000
def invalidParameter : NFCSTATUS := 0x0001
def invalidDevice : NFCSTATUS := 0x0006
def rfTimeout : NFCSTATUS := 0x0009
def insufficientResources : NFCSTATUS := 0x000C
def pending : NFCSTATUS := 0x000D
def writeFailed : NFCSTATUS := 0x0015
def notInitialised : NFCSTATUS := 0x0031
def alreadyInitialised : NFCSTATUS := 0x0032
def notAllowed : NFCSTATUS := 0x003A
def fwVersionError : NFCSTATUS := 0x003C
def busy : NFCSTATUS := 0x006F
def rejected : NFCSTATUS := 0x0093
def failed : NFCSTATUS := 0x00FF

end NFCSTATUS

/-- Component id of the transport mapping layer. -/
def cidNfcTml : UInt16 := 0x01

/-- Component id of the firmware download management layer. -/
def cidNfcDnld : UInt16 := 0x09

/-- `PHNFCSTVAL`: a status tagged with the component that reports it. -/
def phNfcStVal (phNfcCompID : UInt16) (phNfcStatus : NFCSTATUS) : NFCSTATUS :=
  if phNfcStatus = NFCSTATUS.success then NFCSTATUS.success
  else (phNfcStatus &&& (0x00FF : UInt16)) ||| (phNfcCompID <<< (8 : UInt16))

/-- `PHNFCSTATUS`: the status without its component tag. -/
def phNfcStatus (status : NFCSTATUS) : NFCSTATUS := status &&& (0x00FF : UInt16)

/-! ## Status bytes of the download protocol -/

namespace PhDlStatus

def ok : UInt8 := 0x00
def pllError : UInt8 := 0x0D
def memBsy : UInt8 := 0x20
def signatureError : UInt8 := 0x21
def firmwareVersionError : UInt8 := 0x24

end PhDlStatus

end AliceHal.Pn54x
