/-! What a capture counts while it runs. -/

namespace MotionCast

/-- The counters of a capture. Each counts without end, and is shown by its lowest 64 bits. -/
structure Metrics where
  /-- Records that were read whole and in step. -/
  framesRead : Nat := 0
  /-- Frames taken out of records. -/
  framesExtracted : Nat := 0
  /-- Frames shown to viewers, each viewer counted. -/
  framesPublished : Nat := 0
  /-- Losses of step with the device, each followed by a reopening. -/
  unsynced : Nat := 0
  /-- Silences of the reader that were taken for a stuck read. -/
  readStuck : Nat := 0
  /-- Readers that were given up because they did not stop. -/
  forcedRestarts : Nat := 0
  /-- Times that the device was opened. -/
  reconnects : Nat := 0
  /-- Reports that were cut short. -/
  shortReads : Nat := 0
  /-- Changes of the scan period. -/
  scanUpdates : Nat := 0
  /-- Requests to the device to switch its sensors on. -/
  motionReenables : Nat := 0
deriving DecidableEq, Repr

/-- The counters as they are shown. After 2 ^ 64 events one starts over. -/
def Metrics.snapshot (m : Metrics) : Metrics where
  framesRead := m.framesRead % 0x10000000000000000
  framesExtracted := m.framesExtracted % 0x10000000000000000
  framesPublished := m.framesPublished % 0x10000000000000000
  unsynced := m.unsynced % 0x10000000000000000
  readStuck := m.readStuck % 0x10000000000000000
  forcedRestarts := m.forcedRestarts % 0x10000000000000000
  reconnects := m.reconnects % 0x10000000000000000
  shortReads := m.shortReads % 0x10000000000000000
  scanUpdates := m.scanUpdates % 0x10000000000000000
  motionReenables := m.motionReenables % 0x10000000000000000

end MotionCast
