/-
  Spark.Platform.UIKit

  The parts of UIKit the controllers read and write: labels, text fields,
  the activity indicator, and pictures with their JPEG codec.

  The codec is not part of the app.  `UIImage` lists what the app calls of
  it, over an arbitrary type of pictures.
-/

import Spark.Platform.Foundation

namespace Spark

/-- Border of a control's layer: `borderWidth` 0 with a clear colour, or
    width 0.5 in red. -/
inductive Border
  | clear
  | red
  deriving DecidableEq, Repr

structure UILabel where
  text : Option String
  isHidden : Bool := false
  deriving DecidableEq, Repr

structure UITextField where
  text : Option String
  placeholder : Option String
  border : Border := .clear
  deriving DecidableEq, Repr

/-- UIKit applies an edit that `shouldChangeCharactersIn` allowed. -/
def UITextField.replace (f : UITextField) (range : NSRange) (string : String) : UITextField :=
  { f with text := some (replacingCharacters (f.text.getD "") range string) }

structure UIActivityIndicatorView where
  isAnimating : Bool := false
  deriving DecidableEq, Repr

/-- What the app calls of `UIImage`: the JPEG encoder at quality 0.5, which
    may fail, the decoder, and the system picture "person.fill" the
    storyboard puts in `profileImg`. -/
class UIImage (Image : Type) where
  jpegData : Image → Option Data
  ofData : Data → Option Image
  personFill : Image

/-- Pictures that are their own JPEG data, for runs that can be evaluated. -/
instance rawPictures : UIImage Data where
  jpegData := some
  ofData := some
  personFill := []

end Spark
