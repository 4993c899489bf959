namespace BrightScript.Library

def defenderLines : List String := [
  "' Display framework helpers bundled with the runtime.",
  "' Requested with: Library \"v30/bslDefender.brs\"",
  "' Uses functions from v30/bslCore.brs, which is always loaded with it.",
  "",
  "function dfDrawMessage(message as string) as object",
  "    codes = bslUniversalControlEventCodes()",
  "    return \x7b",
  "        text: message",
  "        dismissKey: codes.BUTTON_BACK_PRESSED",
  "        confirmKey: codes.BUTTON_SELECT_PRESSED",
  "    \x7d",
  "end function",
  "",
  "function dfSetupDisplayRegions(width as integer, height as integer) as object",
  "    constants = bslGeneralConstants()",
  "    if width > constants.MAX_INT or height > constants.MAX_INT then",
  "        return invalid",
  "    end if",
  "    return \x7b",
  "        main: \x7b x: 0, y: 0, w: width, h: height \x7d",
  "        safe: \x7b x: width / 10, y: height / 10, w: width * 4 / 5, h: height * 4 / 5 \x7d",
  "    \x7d",
  "end function",
  "",
  "function dfSetBackground(color as string) as object",
  "    background = CreateObject(\"roSGNode\", \"Rectangle\")",
  "    background.color = color",
  "    return background",
  "end function"]

def coreLines : List String := [
  "' Core helper library bundled with the runtime.",
  "' Requested with: Library \"v30/bslCore.brs\"",
  "",
  "function bslBrightScriptErrorCodes() as object",
  "    return \x7b",
  "        ERR_OKAY: &hFF",
  "        ERR_NORMAL_END: &hFC",
  "        ERR_VALUE_RETURN: &hE2",
  "        ERR_USE_OF_UNINIT_VAR: &hE9",
  "        ERR_DIV_ZERO: &h14",
  "        ERR_TM: &h18",
  "        ERR_USE_OF_INVALID: &hEC",
  "        ERR_RO2: &hF4",
  "        ERR_RO4: &hEC",
  "        ERR_SYNTAX: 2",
  "        ERR_WRONG_NUM_PARAM: &hF1",
  "    \x7d",
  "end function",
  "",
  "function bslGeneralConstants() as object",
  "    return \x7b",
  "        MAX_INT: 2147483647",
  "        MIN_INT: -2147483648",
  "        MAX_FLOAT: 3.4028235",
  "        MIN_FLOAT: 0.0000001",
  "    \x7d",
  "end function",
  "",
  "function bslUniversalControlEventCodes() as object",
  "    return \x7b",
  "        BUTTON_BACK_PRESSED: 0",
  "        BUTTON_UP_PRESSED: 2",
  "        BUTTON_DOWN_PRESSED: 3",
  "        BUTTON_LEFT_PRESSED: 4",
  "        BUTTON_RIGHT_PRESSED: 5",
  "        BUTTON_SELECT_PRESSED: 6",
  "        BUTTON_INSTANT_REPLAY_PRESSED: 7",
  "        BUTTON_REWIND_PRESSED: 8",
  "        BUTTON_FAST_FORWARD_PRESSED: 9",
  "        BUTTON_INFO_PRESSED: 10",
  "        BUTTON_PLAY_PRESSED: 13",
  "        BUTTON_BACK_RELEASED: 100",
  "        BUTTON_SELECT_RELEASED: 106",
  "    \x7d",
  "end function",
  "",
  "function bslBoolToString(value as boolean) as string",
  "    if value then",
  "        return \"true\"",
  "    end if",
  "    return \"false\"",
  "end function"]

/-- The entry point of the advertising framework. -/
def adsLines : List String := [
  "' Advertising framework entry point bundled with the runtime.",
  "' Requested with: Library \"Roku_Ads.brs\"",
  "",
  "function Roku_Ads() as object",
  "    return \x7b",
  "        version: \"3.0\"",
  "        adUrl: \"\"",
  "        debugOutput: false",
  "        nielsenEnabled: false",
  "        contentId: \"\"",
  "        contentGenre: \"General Variety\"",
  "    \x7d",
  "end function"]

/-- A text of whole lines. -/
def joinLines (lines : List String) : String := String.join (lines.map (· ++ "\n"))

end BrightScript.Library
