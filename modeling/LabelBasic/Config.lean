import LabelBasic.Options

namespace LabelBasic

structure Config where
  expand : Options := {}
  logFilter : Text := "warn".toList
deriving DecidableEq, Repr

end LabelBasic
