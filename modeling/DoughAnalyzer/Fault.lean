import DoughAnalyzer.Text.Quoted
import DoughAnalyzer.Update.Error

set_option autoImplicit false

namespace DoughAnalyzer

inductive StoreError where
  | noPartition | outOfSpace | writeFailed | sealFailed | bootSetFailed
  deriving DecidableEq, Repr

namespace StoreError

def message : StoreError → String
  | noPartition => "no inactive partition"
  | outOfSpace => "write past end of partition"
  | writeFailed => "flash write failed"
  | sealFailed => "image seal failed"
  | bootSetFailed => "set boot partition failed"

def label : StoreError → String
  | noPartition => "NoPartition"
  | outOfSpace => "OutOfSpace"
  | writeFailed => "WriteFailed"
  | sealFailed => "SealFailed"
  | bootSetFailed => "BootSetFailed"

def all : List StoreError := [noPartition, outOfSpace, writeFailed, sealFailed, bootSetFailed]

end StoreError

inductive DecodeError where
  | truncated | invalidDocument | versionTooLong
  deriving DecidableEq, Repr

namespace DecodeError

def message : DecodeError → String
  | truncated => "frame shorter than chunk header"
  | invalidDocument => "malformed announcement"
  | versionTooLong => "version string too long"

def label : DecodeError → String
  | truncated => "Truncated"
  | invalidDocument => "InvalidJson"
  | versionTooLong => "VersionTooLong"

def all : List DecodeError := [truncated, invalidDocument, versionTooLong]

end DecodeError

inductive ChannelError where
  | subscribeFailed | publishFailed | encodeFailed
  deriving DecidableEq, Repr

namespace ChannelError

def message : ChannelError → String
  | subscribeFailed => "MQTT subscribe failed"
  | publishFailed => "MQTT publish failed"
  | encodeFailed => "payload encode failed"

def label : ChannelError → String
  | subscribeFailed => "MqttSubscribeFailed"
  | publishFailed => "MqttPublishFailed"
  | encodeFailed => "EncodeFailed"

def all : List ChannelError := [subscribeFailed, publishFailed, encodeFailed]

end ChannelError

inductive SensorError where
  | readFailed | outOfRange | notFitted
  deriving DecidableEq, Repr

namespace SensorError

def message : SensorError → String
  | readFailed => "sensor read failed"
  | outOfRange => "reading out of range"
  | notFitted => "no sensor driver fitted"

def label : SensorError → String
  | readFailed => "ReadFailed"
  | outOfRange => "OutOfRange"
  | notFitted => "NotFitted"

def all : List SensorError := [readFailed, outOfRange, notFitted]

end SensorError

inductive PlatformError where
  | markValidFailed | sleepFailed
  deriving DecidableEq, Repr

namespace PlatformError

def message : PlatformError → String
  | markValidFailed => "mark app valid failed"
  | sleepFailed => "light sleep failed"

def label : PlatformError → String
  | markValidFailed => "MarkValidFailed"
  | sleepFailed => "SleepFailed"

def all : List PlatformError := [markValidFailed, sleepFailed]

end PlatformError

/-- Settings that cannot be read, or that break the rule stated by the complaint. -/
inductive ConfigError where
  | invalid (complaint : String)
  | corrupted
  deriving DecidableEq, Repr

namespace ConfigError

def message : ConfigError → String
  | invalid complaint => "validation failed: " ++ complaint
  | corrupted => "config corrupted"

def label : ConfigError → String
  | invalid _ => "Invalid"
  | corrupted => "Corrupted"

def debug : ConfigError → String
  | invalid complaint => "Invalid(" ++ Text.quoted complaint ++ ")"
  | corrupted => "Corrupted"

end ConfigError

inductive Fault where
  | update (e : UpdateError)
  | decode (e : DecodeError)
  | channel (e : ChannelError)
  | sensor (e : SensorError)
  | config (e : ConfigError)
  deriving DecidableEq, Repr

namespace Fault

def message : Fault → String
  | update e => "ota: " ++ e.reason
  | decode e => "decode: " ++ e.message
  | channel e => "comms: " ++ e.message
  | sensor e => "sensor: " ++ e.message
  | config e => "config: " ++ e.message

def debug : Fault → String
  | update e => "Ota(" ++ e.label ++ ")"
  | decode e => "Decode(" ++ e.label ++ ")"
  | channel e => "Comms(" ++ e.label ++ ")"
  | sensor e => "Sensor(" ++ e.label ++ ")"
  | config e => "Config(" ++ e.debug ++ ")"

end Fault

end DoughAnalyzer
