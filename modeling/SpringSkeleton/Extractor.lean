import SpringSkeleton.ClassModel.Basic
import SpringSkeleton.Problem

namespace SpringSkeleton

structure ClassQuery where
  source : String
  className : String

abbrev Extractor := ClassQuery → Except Problem ClassModel

end SpringSkeleton
