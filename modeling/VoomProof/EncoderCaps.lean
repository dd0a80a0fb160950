import VoomProof.CompiledPolicy
import VoomProof.RustText

/-!
# Encoders

The descriptors of `media/encoder_caps.rs` in `voom-core`: what each encoder produces, and
the settings a profile may give it.
-/

namespace Voom

open RustText

inductive PresetDomain where
  | named (names : List String)
  | numericRange (min max : Nat)
  | none
  deriving DecidableEq

inductive QualityDomain where
  | crf (min max : Nat)
  | cq (min max : Nat)
  | qp (min max : Nat)
  | bitrateKbps (min max : Nat)
  deriving DecidableEq

/-- The text of Rust's derived `Debug`. -/
def QualityDomain.debug : QualityDomain → String
  | crf min max => s!"Crf \x7b min: {min}, max: {max} \x7d"
  | cq min max => s!"Cq \x7b min: {min}, max: {max} \x7d"
  | qp min max => s!"Qp \x7b min: {min}, max: {max} \x7d"
  | bitrateKbps min max => s!"BitrateKbps \x7b min: {min}, max: {max} \x7d"

inductive VideoEncoderBackend where
  | software
  | nvidia
  | vaapi
  | videoToolbox
  deriving DecidableEq

structure EncoderDescriptor where
  encoder : String
  targetCodec : String
  qualityDomain : QualityDomain
  backend : VideoEncoderBackend
  presetDomain : PresetDomain
  tunes : List String
  codecProfiles : List String
  codecLevels : List String
  pixelFormats : List String
  tenBitPixelFormats : List String
  eightBitOnlyProfiles : List String
  deriving DecidableEq

namespace EncoderDescriptor

def x265 : EncoderDescriptor where
  encoder := "libx265"
  targetCodec := "hevc"
  qualityDomain := .crf 0 51
  backend := .software
  presetDomain := .named ["ultrafast", "superfast", "veryfast", "faster", "fast", "medium",
    "slow", "slower", "veryslow", "placebo"]
  tunes := ["psnr", "ssim", "grain", "fastdecode", "zerolatency"]
  codecProfiles := ["main", "main10"]
  codecLevels := ["3.0", "3.1", "4.0", "4.1", "5.0", "5.1", "5.2", "6.0", "6.1", "6.2"]
  pixelFormats := ["yuv420p", "yuv420p10le", "yuv422p", "yuv422p10le", "yuv444p", "yuv444p10le"]
  tenBitPixelFormats := ["yuv420p10le", "yuv422p10le", "yuv444p10le"]
  eightBitOnlyProfiles := ["main"]

def svtav1 : EncoderDescriptor where
  encoder := "libsvtav1"
  targetCodec := "av1"
  qualityDomain := .crf 0 63
  backend := .software
  presetDomain := .numericRange 0 13
  tunes := ["vq", "psnr"]
  codecProfiles := ["main"]
  codecLevels := ["4.0", "4.1", "5.0", "5.1", "6.0", "6.1"]
  pixelFormats := ["yuv420p", "yuv420p10le"]
  tenBitPixelFormats := ["yuv420p10le"]
  eightBitOnlyProfiles := []

def libaom : EncoderDescriptor :=
  { svtav1 with
    encoder := "libaom-av1"
    presetDomain := .numericRange 0 8
    tunes := ["psnr", "ssim"] }

def hevcNvenc : EncoderDescriptor where
  encoder := "hevc_nvenc"
  targetCodec := "hevc"
  qualityDomain := .cq 1 51
  backend := .nvidia
  presetDomain := .named ["p1", "p2", "p3", "p4", "p5", "p6", "p7"]
  tunes := ["hq", "uhq", "ll", "ull", "lossless"]
  codecProfiles := ["main", "main10"]
  codecLevels := ["3.0", "3.1", "4.0", "4.1", "5.0", "5.1", "5.2", "6.0", "6.1", "6.2"]
  pixelFormats := ["yuv420p", "yuv420p10le"]
  tenBitPixelFormats := ["yuv420p10le"]
  eightBitOnlyProfiles := ["main"]

def hevcVaapi : EncoderDescriptor where
  encoder := "hevc_vaapi"
  targetCodec := "hevc"
  qualityDomain := .qp 1 52
  backend := .vaapi
  presetDomain := .none
  tunes := []
  codecProfiles := ["main", "main10"]
  codecLevels := []
  pixelFormats := ["nv12", "p010"]
  tenBitPixelFormats := ["p010"]
  eightBitOnlyProfiles := ["main"]

def h264Videotoolbox : EncoderDescriptor where
  encoder := "h264_videotoolbox"
  targetCodec := "h264"
  qualityDomain := .bitrateKbps 1 4294967295
  backend := .videoToolbox
  presetDomain := .named ["default"]
  tunes := []
  codecProfiles := ["high"]
  codecLevels := ["4.1"]
  pixelFormats := ["yuv420p"]
  tenBitPixelFormats := []
  eightBitOnlyProfiles := ["high"]

def hevcVideotoolbox : EncoderDescriptor where
  encoder := "hevc_videotoolbox"
  targetCodec := "hevc"
  qualityDomain := .bitrateKbps 1 4294967295
  backend := .videoToolbox
  presetDomain := .named ["default"]
  tunes := []
  codecProfiles := ["main", "main10"]
  codecLevels := []
  pixelFormats := ["yuv420p", "yuv420p10le"]
  tenBitPixelFormats := ["yuv420p10le"]
  eightBitOnlyProfiles := ["main"]

def acceptsPreset (descriptor : EncoderDescriptor) (preset : String) : Bool :=
  match descriptor.presetDomain with
  | .named names => preset ∈ names
  | .numericRange min max => (parseUnsigned 8 preset.toList).any fun n => min ≤ n && n ≤ max
  | .none => false

/-- A ten-bit format does not go with an eight-bit profile. -/
def pixelFormatCompatibleWithProfile (descriptor : EncoderDescriptor) (pixelFormat : String) :
    Option String → Bool
  | none => true
  | some profile =>
      profile ∉ descriptor.eightBitOnlyProfiles || pixelFormat ∉ descriptor.tenBitPixelFormats

end EncoderDescriptor

open EncoderDescriptor in
def encoderDescriptors : List EncoderDescriptor :=
  [x265, svtav1, libaom, hevcNvenc, hevcVaapi, h264Videotoolbox, hevcVideotoolbox]

def encoderDescriptor (encoder : String) : Option EncoderDescriptor :=
  encoderDescriptors.find? (·.encoder = encoder)

def VideoDecodeMode.parse : String → Option VideoDecodeMode
  | "software" => some .software
  | "nvidia" => some .nvidia
  | "vaapi" => some .vaapi
  | "video_toolbox" => some .videoToolbox
  | _ => none

end Voom
