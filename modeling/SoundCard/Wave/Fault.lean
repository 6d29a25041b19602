import SoundCard.Files

/-!
# Faults of sound files

Why a sound file cannot be read or written.
-/

set_option autoImplicit false

namespace SoundCard.Wave

inductive Defect where
  | noRiffTag
  | noWaveTag
  | noFormat
  | formatTooShort
  | noChannels
  | sampleTooLarge
  | inconsistentRates
  | oddBits
  | noBits
  | formatSize
  | extendedBits
  | floatExtension
  | floatBits
  | extensionSize
  | dataNotSamples
  | dataNotFrames
  deriving DecidableEq, Repr

def Defect.message : Defect → String
  | noRiffTag => "no RIFF tag found"
  | noWaveTag => "no WAVE tag found"
  | noFormat => "missing fmt chunk"
  | formatTooShort => "invalid fmt chunk size"
  | noChannels => "file contains zero channels"
  | sampleTooLarge => "sample bits exceeds size of sample"
  | inconsistentRates => "inconsistent fmt chunk"
  | oddBits => "bits per sample is not a multiple of 8"
  | noBits => "bits per sample is 0"
  | formatSize => "unexpected fmt chunk size"
  | extendedBits => "bits per sample is not 8 or 16"
  | floatExtension => "unexpected WAVEFORMATEX size"
  | floatBits => "bits per sample is not 32"
  | extensionSize => "unexpected WAVEFORMATEXTENSIBLE size"
  | dataNotSamples => "data chunk length is not a multiple of sample size"
  | dataNotFrames => "invalid data chunk length"

inductive Fault where
  | access (cause : FileError)
  | truncated
  | malformed (defect : Defect)
  | unsupported
  | tooWide
  | unfinishedFrame
  deriving DecidableEq, Repr

def Fault.message : Fault → String
  | access cause => cause.message
  | truncated => "Failed to read enough bytes."
  | malformed defect => s!"Ill-formed WAVE file: {defect.message}"
  | unsupported => "The wave format of the file is not supported."
  | tooWide => "The sample has more bits than the destination type."
  | unfinishedFrame =>
    "The number of samples written is not a multiple of the number of channels."

end SoundCard.Wave
