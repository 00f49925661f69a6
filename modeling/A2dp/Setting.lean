/-!
# Settings

The properties of an audio stream that two endpoints agree on by selecting bits.
-/

namespace A2dp

/-- A property that a bit field of a capability selects. -/
inductive Setting where
  | sampleRate
  | frameSize
  | channelMode
  | bitDepth
  deriving DecidableEq, Repr

namespace Setting

def label : Setting → String
  | .sampleRate => "samp_freq"
  | .frameSize => "frame_size"
  | .channelMode => "ch_mode"
  | .bitDepth => "bits_per_sample"

/-- The setting's name in the wording of a fault. -/
def faultName : Setting → String
  | .sampleRate => "采样率"
  | .frameSize => "帧长"
  | .channelMode => "声道模式"
  | .bitDepth => "位深"

end Setting

end A2dp
