import SoftVideoEncoder.Words
import SoftVideoEncoder.Omx.Types
import SoftVideoEncoder.Omx.SetParameter
import SoftVideoEncoder.Omx.Egl
import SoftVideoEncoder.Omx.PortSync
import SoftVideoEncoder.Omx.FrameSize
import SoftVideoEncoder.Omx.ScratchBuffer
import SoftVideoEncoder.Omx.Repeat
import SoftVideoEncoder.Convert.Memory
import SoftVideoEncoder.Convert.Planar
import SoftVideoEncoder.Convert.FlexYUV
import SoftVideoEncoder.Convert.RGB32
import SoftVideoEncoder.Convert.SemiPlanar
import SoftVideoEncoder.Extract.GraphicBuffer
import SoftVideoEncoder.Extract.Sources
import SoftVideoEncoder.Extract.Bounds
import SoftVideoEncoder.Extract.Mapper
import SoftVideoEncoder.Omx.WellFormed
import SoftVideoEncoder.Omx.Query
import SoftVideoEncoder.Omx.Settings
import SoftVideoEncoder.Convert.Equivalence
import SoftVideoEncoder.Extract.Input
