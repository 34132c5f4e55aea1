import GuestAudio.Fault
import GuestAudio.Format.Layout
import GuestAudio.Format.Output
import GuestAudio.Capabilities
import GuestAudio.Volume
import GuestAudio.Log
import GuestAudio.Settings
import GuestAudio.Settings.Text
import GuestAudio.Format.Menu
import GuestAudio.Format.Pcm
import GuestAudio.Buffer
import GuestAudio.Guest.Status
import GuestAudio.Guest.Queued
import GuestAudio.Sample.Binary32
import GuestAudio.Sample.Native
import GuestAudio.Block.Mixing
import GuestAudio.Block.Filler
import GuestAudio.Block.Playback
import GuestAudio.Text.Quoted
import GuestAudio.Device.Planned
import GuestAudio.Device.Soundcard
import GuestAudio.SoundSystem
import GuestAudio.Chime.Playhead
import GuestAudio.Chime.Player
import GuestAudio.Proofs.Guest.Interleaving
import GuestAudio.Proofs.Guest.History
import GuestAudio.Proofs.Block.WireSamples
import GuestAudio.Proofs.Block.Attenuation
import GuestAudio.Proofs.Block.Region
import GuestAudio.Proofs.Block.Rendering
import GuestAudio.Proofs.Block.FullBlocks
import GuestAudio.Proofs.Block.GuestSide
import GuestAudio.Proofs.Block.Cutting
import GuestAudio.Proofs.Block.MixedBytes
import GuestAudio.Proofs.Block.MixingLaws
import GuestAudio.Proofs.Block.Widening
import GuestAudio.Proofs.Guest.Exchange
import GuestAudio.Proofs.Guest.SourceCount
import GuestAudio.Proofs.Format.Pick
import GuestAudio.Proofs.System.Opening
import GuestAudio.Proofs.System.Course
import GuestAudio.Proofs.System.Refusals
import GuestAudio.Proofs.System.Recording
import GuestAudio.Proofs.System.OneSession
import GuestAudio.Proofs.System.PublishedFormat
import GuestAudio.Proofs.System.Requests
import GuestAudio.Proofs.Block.Lockstep
import GuestAudio.Proofs.Block.Fills
import GuestAudio.Proofs.Volume.Changes
import GuestAudio.Proofs.Block.Louder
import GuestAudio.Proofs.Block.DescribedFrames
import GuestAudio.Proofs.System.VolumeInUse
import GuestAudio.Proofs.Device.Channels
import GuestAudio.Proofs.System.Soundcard
import GuestAudio.Proofs.System.LiveStreams
import GuestAudio.Proofs.System.Turns
import GuestAudio.Proofs.Sample.Rounding
import GuestAudio.Proofs.Wav.PcmFile
import GuestAudio.Proofs.Wav.Decoding
import GuestAudio.Proofs.Block.Silence
import GuestAudio.Proofs.Format.MenuHistory
import GuestAudio.Proofs.Wav.Acceptance
import GuestAudio.Proofs.Chime.Ending
import GuestAudio.Proofs.Toml.Words
import GuestAudio.Proofs.Toml.Lines
import GuestAudio.Proofs.Settings.RoundTrip
import GuestAudio.Proofs.Wav.ExactReading
import GuestAudio.Proofs.Wav.Truncation
import GuestAudio.Proofs.Sample.FullScale
import GuestAudio.Proofs.Wav.FullScale
import GuestAudio.Proofs.Chime.Resampling
import GuestAudio.Proofs.Device.BestRange
import GuestAudio.Proofs.Device.Acquisition
