import MotionCast.Server.Endpoint
import MotionCast.Text.Blank
import MotionCast.Time

/-! The parameters of the server. -/

namespace MotionCast

/-- On which of the machine's addresses the server listens. -/
inductive BindInterface where
  /-- Only on the one that the machine itself can reach. -/
  | localOnly
  | all
deriving DecidableEq, Repr

/-- A text names no interface. -/
structure UnknownInterface where
  text : String
deriving DecidableEq, Repr

/-- The text of the error. -/
def UnknownInterface.message (e : UnknownInterface) : String :=
  "unknown interface '" ++ e.text ++ "', expected 'local' or 'all'"

namespace BindInterface

/-- The interface as messages write it. -/
def name : BindInterface → String
  | localOnly => "Local"
  | all => "All"

/-- The host to listen on. -/
def host : BindInterface → Host
  | localOnly => .v4 127 0 0 1
  | all => .v4 0 0 0 0

/-- The interface that a text names. The case of basic letters does not matter. -/
def parse (text : String) : Except UnknownInterface BindInterface :=
  let lower := String.ofList (text.toList.map Char.toLower)
  if lower = "local" then .ok localOnly
  else if lower = "all" then .ok all
  else .error ⟨lower⟩

end BindInterface

/-- The port on which clients expect a server. -/
def defaultPort : UInt16 := 26760

/-- The slot of the handheld's own controller. -/
def ownSlot : UInt8 := 0

/-- The parameters of the server. -/
structure ServerConfig where
  interface : BindInterface := .all
  port : UInt16 := defaultPort
  /-- The slot in which the controller is shown. -/
  slot : UInt8 := ownSlot
  /-- A silence of this length counts against every client. -/
  receiveTimeout : Nanos := Nanos.seconds 2
  /-- Each time that so many rounds were sent counts against every client. -/
  timeoutCheckPeriod : UInt32 := 500
  /-- A client with more counts against it than this is dropped. -/
  clientTimeoutLimit : UInt32 := 3
  /-- The pause between two rounds. -/
  sendPause : Nanos := Nanos.micros 2
deriving DecidableEq

namespace ServerConfig

/-- Where the server listens. -/
def endpoint (c : ServerConfig) : Endpoint := ⟨c.interface.host, c.port⟩

/-- The port that a text names, blanks around it aside. -/
def port? (text : String) : Option UInt16 :=
  (Numeral.unsigned? 10 65536 (Blank.trim text.toList)).map UInt16.ofNat

/-- The parameters with the port of a setting. A setting that names no port is ignored. -/
def withPortSetting (c : ServerConfig) (setting : Option String) : ServerConfig :=
  { c with port := (setting.bind port?).getD c.port }

/-- The defaults with the port of a setting in bytes, which must be text to count. No setting holds
a zero byte. -/
def ofSetting? (setting : Option (List UInt8)) : Option ServerConfig :=
  if setting.any (·.contains 0) then none
  else
    let text := setting.bind fun bytes => String.fromUTF8? ⟨bytes.toArray⟩
    some (withPortSetting {} text)

end ServerConfig

end MotionCast
